import FetchPlan.Proofs.LinkDestinations

/-!
Two trees with the same entries, whose files may hold other contents except below a root. A path
leads to the same place in both (`walk_shape`), so it has the same canonical place in both; and
what a path finds below the root is the same (`walk_eq`).
-/
namespace FetchPlan.Files

def Entry.shape : Entry → Entry
  | .file _ => .file []
  | e => e

def Reached.shape : Reached → Reached
  | .found p e => .found p e.shape
  | .missing d name => .missing d name

namespace Tree

/-- Two trees with the same entries, of which the files below a root have the same contents too. -/
structure AgreesBelow (root : Place) (t u : Tree) : Prop where
  working : u.workingDirectory = t.workingDirectory
  below : ∀ p, root <+: p → u.lookup p = t.lookup p
  shape : ∀ p, (u.lookup p).map Entry.shape = (t.lookup p).map Entry.shape

namespace AgreesBelow

variable {t u : Tree} {root : Place} (h : AgreesBelow root t u)
include h

theorem lookup_none {p : Place} (hp : t.lookup p = none) : u.lookup p = none := by
  have hs := h.shape p
  rw [hp] at hs
  simpa using hs

theorem lookup_some {p : Place} {e : Entry} (hp : t.lookup p = some e) :
    ∃ e', u.lookup p = some e' ∧ e'.shape = e.shape := by
  have hs := h.shape p
  rw [hp] at hs
  exact Option.map_eq_some_iff.1 hs

theorem lookup_directory {p : Place} (hp : t.lookup p = some .directory) :
    u.lookup p = some .directory := by
  obtain ⟨e, he, hshape⟩ := h.lookup_some hp
  cases e with
  | directory => exact he
  | file _ | link _ => cases hshape

theorem lookup_link {p : Place} {target : String} (hp : t.lookup p = some (.link target)) :
    u.lookup p = some (.link target) := by
  obtain ⟨e, he, hshape⟩ := h.lookup_some hp
  cases e with
  | link _ => cases hshape; exact he
  | directory | file _ => cases hshape

theorem lookup_file {p : Place} {content : List UInt8} (hp : t.lookup p = some (.file content)) :
    ∃ content', u.lookup p = some (.file content') := by
  obtain ⟨e, he, hshape⟩ := h.lookup_some hp
  cases e with
  | file content' => exact ⟨content', he⟩
  | directory | link _ => cases hshape

/-- Where a path leads does not depend on the contents of files. -/
theorem walk_shape (f : Bool) (k : Nat) (here : Place) (ps : List String) :
    (u.walk f k here ps).map Reached.shape = (t.walk f k here ps).map Reached.shape := by
  fun_induction t.walk f k here ps with
  | case1 k here e he =>
    obtain ⟨e', he', hshape⟩ := h.lookup_some he
    simp [walk, he', Except.map, Reached.shape, hshape]
  | case2 k here hn => simp [walk, h.lookup_none hn]
  | case3 k here part rest hd hs ih => simpa [walk, h.lookup_directory hd, hs] using ih
  | case4 k here rest hd hs ih => simpa [walk, h.lookup_directory hd, hs] using ih
  | case5 k here part rest hd hs hu hlen => simp [walk, h.lookup_directory hd, hs, hu, hlen]
  | case6 k here part hd hs hu hlen hn =>
    simp [walk, h.lookup_directory hd, hs, hu, hlen, h.lookup_none hn]
  | case7 k here part rest hd hs hu hlen hn hr =>
    simp [walk, h.lookup_directory hd, hs, hu, hlen, h.lookup_none hn, hr]
  | case8 k here part rest hd hs hu hlen target hl hend =>
    simp [walk, h.lookup_directory hd, hs, hu, hlen, h.lookup_link hl, hend]
  | case9 here part rest hd hs hu hlen target hl hend =>
    have hend : ¬ (rest = [] ∧ f = false) := by simpa using hend
    simp [walk, h.lookup_directory hd, hs, hu, hlen, h.lookup_link hl, hend]
  | case10 here part rest hd hs hu hlen target hl hend k ih =>
    have hend : ¬ (rest = [] ∧ f = false) := by simpa using hend
    simpa [walk, h.lookup_directory hd, hs, hu, hlen, h.lookup_link hl, hend] using ih
  | case11 k here part rest hd hs hu hlen e hne he ih =>
    cases e with
    | directory => simpa [walk, h.lookup_directory hd, hs, hu, hlen, h.lookup_directory he] using ih
    | file content =>
      obtain ⟨content', he'⟩ := h.lookup_file he
      simpa [walk, h.lookup_directory hd, hs, hu, hlen, he'] using ih
    | link target => exact absurd rfl (hne target)
  | case12 k here part rest e hne he =>
    cases e with
    | directory => exact absurd rfl hne
    | file content =>
      obtain ⟨content', he'⟩ := h.lookup_file he
      simp [walk, he']
    | link target => simp [walk, h.lookup_link he]
  | case13 k here part rest hn => simp [walk, h.lookup_none hn]

theorem walk_found {f : Bool} {k : Nat} {here q : Place} {ps : List String} {e : Entry}
    (hw : t.walk f k here ps = .ok (.found q e)) :
    ∃ e', u.walk f k here ps = .ok (.found q e') ∧ e'.shape = e.shape := by
  have hs := h.walk_shape f k here ps
  rw [hw] at hs
  cases hu : u.walk f k here ps with
  | error _ => rw [hu] at hs; cases hs
  | ok r =>
    rw [hu] at hs
    cases r with
    | found q' e' =>
      obtain ⟨rfl, hshape⟩ := Reached.found.inj (Except.ok.inj hs)
      exact ⟨e', rfl, hshape⟩
    | missing _ _ => cases hs

theorem walk_missing {f : Bool} {k : Nat} {here d : Place} {ps : List String} {name : String}
    (hw : t.walk f k here ps = .ok (.missing d name)) :
    u.walk f k here ps = .ok (.missing d name) := by
  have hs := h.walk_shape f k here ps
  rw [hw] at hs
  cases hu : u.walk f k here ps with
  | error _ => rw [hu] at hs; cases hs
  | ok r =>
    rw [hu] at hs
    cases r with
    | found _ _ => cases hs
    | missing d' name' =>
      obtain ⟨rfl, rfl⟩ := Reached.missing.inj (Except.ok.inj hs)
      rfl

theorem walk_error {f : Bool} {k : Nat} {here : Place} {ps : List String} {e : IoFailure}
    (hw : t.walk f k here ps = .error e) : u.walk f k here ps = .error e := by
  have hs := h.walk_shape f k here ps
  rw [hw] at hs
  cases hu : u.walk f k here ps with
  | error _ => rw [hu] at hs; exact congrArg Except.error (Except.error.inj hs)
  | ok _ => rw [hu] at hs; cases hs

theorem walk_eq {k : Nat} {here : Place} {ps : List String}
    (hbelow : ∀ q, Leads t here ps q → root <+: q) :
    u.walk true k here ps = t.walk true k here ps := by
  cases hw : t.walk true k here ps with
  | error e => exact h.walk_error hw
  | ok reached =>
    cases reached with
    | missing d name => exact h.walk_missing hw
    | found q e =>
      obtain ⟨e', hu, -⟩ := h.walk_found hw
      obtain ⟨hl, he⟩ := leads_of_walk hw
      have hsame := h.below q (hbelow q hl)
      rw [he, (leads_of_walk hu).2] at hsame
      rw [hu, Option.some.inj hsame]

theorem canonical_eq (p : Place) : u.canonical p = t.canonical p := by
  unfold canonical
  split
  · rfl
  · cases hw : t.walk true linkLimit [] p with
    | error e => rw [h.walk_error hw]
    | ok r =>
      cases r with
      | found q e =>
        obtain ⟨e', hu, -⟩ := h.walk_found hw
        rw [hu]
      | missing d name => rw [h.walk_missing hw]

end AgreesBelow

end Tree
end FetchPlan.Files
