import FetchPlan.Files.Tree
import FetchPlan.Proofs.PathText

/-!
Where a path leads when every link in it is followed. `Leads` follows links without a limit and
goes on below what is missing, so it gives a place to every path that does not go round in circles
and does not go on below a file: for what exists its place without links (`walk_arrives`), for
what is missing the place where it would come to stand. A place without links on its way leads to
itself and nowhere else (`eq_of_linkFree`), and whatever a path leads to is such a place
(`linkFree_of_leads`).

Assumed of a tree is that it is well formed (`Sound`): each entry stands in a directory under a
name that can stand in a path, and the working directory is one. Every tree that a system has is
so.
-/
namespace FetchPlan.Files

namespace Tree

/-- Whether a path may go on from a place; it may not from a file. -/
def Passable (t : Tree) (p : Place) : Prop := ∀ content, t.lookup p ≠ some (.file content)

/-- Whether no link stands at a place or on the way to it. -/
def LinkFree (t : Tree) (p : Place) :
    Prop := ∀ q, q <+: p → ∀ target, t.lookup q ≠ some (.link target)

/-- Where the parts of a path lead from a place. -/
inductive Leads (t : Tree) : Place → List String → Place → Prop
  | here (p : Place) : Leads t p [] p
  | still {p q : Place} {part : String} {rest : List String} : t.Passable p → isStill part = true →
      Leads t p rest q → Leads t p (part :: rest) q
  | up {p q : Place} {rest : List String} : t.Passable p →
      Leads t p.dropLast rest q → Leads t p (".." :: rest) q
  | down {p q : Place} {name : String} {rest : List String} : t.Passable p → isStill name = false →
      name ≠ ".." → (∀ target, t.lookup (p ++ [name]) ≠ some (.link target)) →
      Leads t (p ++ [name]) rest q → Leads t p (name :: rest) q
  | through {p q : Place} {name target : String} {rest : List String} : t.Passable p →
      isStill name = false → name ≠ ".." → t.lookup (p ++ [name]) = some (.link target) →
      Leads t (start p target) (parts target ++ rest) q → Leads t p (name :: rest) q

/-- A tree in which every entry stands in a directory, under a name that a path can have, and
relative paths start at a directory. -/
structure Sound (t : Tree) : Prop where
  named : ∀ p e, t.lookup p = some e → ∀ name ∈ p, IsName name
  parents : ∀ p name e, t.lookup (p ++ [name]) = some e → t.lookup p = some .directory
  working : t.lookup t.workingDirectory = some .directory

variable {t : Tree}

/-! ## Places without links -/

theorem lookup_nil (t : Tree) : t.lookup [] = some .directory := rfl

theorem LinkFree.of_isPrefix {p q : Place} (h : t.LinkFree p) (hq : q <+: p) : t.LinkFree q :=
  fun r hr => h r (hr.trans hq)

theorem linkFree_nil : t.LinkFree [] := by
  intro q hq target
  rw [List.prefix_nil.1 hq, lookup_nil]
  simp

theorem LinkFree.append {p : Place} {name : String} (h : t.LinkFree p)
    (hn : ∀ target, t.lookup (p ++ [name]) ≠ some (.link target)) : t.LinkFree (p ++ [name]) := by
  intro q hq
  rcases List.prefix_concat_iff.1 hq with rfl | hq
  · exact hn
  · exact h q hq

theorem LinkFree.start {p : Place} (h : t.LinkFree p) (target : String) :
    t.LinkFree (start p target) := by
  unfold Tree.start
  split
  · exact linkFree_nil
  · exact h

theorem linkFree_of_leads {p q : Place} {ps : List String} (h : Leads t p ps q)
    (hp : t.LinkFree p) : t.LinkFree q := by
  -- each step stands at a place without links: a link is never stepped on, its target starts where
  -- it stands
  induction h with
  | here p => exact hp
  | still _ _ _ ih => exact ih hp
  | up _ _ ih => exact ih (hp.of_isPrefix (List.dropLast_prefix _))
  | down _ _ _ hn _ ih => exact ih (hp.append hn)
  | through _ _ _ _ _ ih => exact ih (hp.start _)

theorem eq_of_linkFree {p q : Place} {ps : List String} (h : Leads t p ps q)
    (hf : t.LinkFree (p ++ ps)) (hn : ∀ name ∈ ps, IsName name) : q = p ++ ps := by
  induction h with
  | here p => simp
  | still _ hs _ _ => exact absurd (hn _ List.mem_cons_self).step (by simp [hs])
  | up _ _ _ => exact absurd rfl (hn ".." List.mem_cons_self).noParent
  | @down p q name rest _ _ _ _ _ ih =>
    have := ih (by simpa using hf) (fun m hm => hn m (List.mem_cons_of_mem _ hm))
    simpa using this
  | @through p q name target rest _ _ _ hl _ _ =>
    exact absurd hl (hf _ ⟨rest, by simp⟩ target)

theorem leads_append {p q : Place} {ps rest : List String} :
    Leads t p (ps ++ rest) q ↔ ∃ m, Leads t p ps m ∧ Leads t m rest q := by
  constructor
  · intro h
    -- by induction on where the whole path leads: either the cut lies here, or further on in what
    -- is left
    generalize hl : ps ++ rest = l at h
    induction h generalizing ps with
    | here p =>
      obtain ⟨rfl, rfl⟩ := List.append_eq_nil_iff.1 hl
      exact ⟨p, .here p, .here p⟩
    | @still p q part r hp hs h ih =>
      cases ps with
      | nil => exact ⟨p, .here p, by rw [show rest = part :: r from hl]; exact .still hp hs h⟩
      | cons a ps =>
        obtain ⟨rfl, rfl⟩ := List.cons.inj hl
        obtain ⟨m, h₁, h₂⟩ := ih rfl
        exact ⟨m, .still hp hs h₁, h₂⟩
    | @up p q r hp h ih =>
      cases ps with
      | nil => exact ⟨p, .here p, by rw [show rest = ".." :: r from hl]; exact .up hp h⟩
      | cons a ps =>
        obtain ⟨rfl, rfl⟩ := List.cons.inj hl
        obtain ⟨m, h₁, h₂⟩ := ih rfl
        exact ⟨m, .up hp h₁, h₂⟩
    | @down p q name r hp hs hu hn h ih =>
      cases ps with
      | nil => exact ⟨p, .here p, by rw [show rest = name :: r from hl]; exact .down hp hs hu hn h⟩
      | cons a ps =>
        obtain ⟨rfl, rfl⟩ := List.cons.inj hl
        obtain ⟨m, h₁, h₂⟩ := ih rfl
        exact ⟨m, .down hp hs hu hn h₁, h₂⟩
    | @through p q name target r hp hs hu hn h ih =>
      cases ps with
      | nil =>
        exact ⟨p, .here p, by rw [show rest = name :: r from hl]; exact .through hp hs hu hn h⟩
      | cons a ps =>
        obtain ⟨rfl, rfl⟩ := List.cons.inj hl
        obtain ⟨m, h₁, h₂⟩ : ∃ m,
            Leads t (start p target) (parts target ++ ps) m ∧ Leads t m rest q :=
          ih (by simp)
        exact ⟨m, .through hp hs hu hn h₁, h₂⟩
  · rintro ⟨m, h₁, h₂⟩
    induction h₁ with
    | here p => exact h₂
    | still hp hs _ ih => exact .still hp hs (ih h₂)
    | up hp _ ih => exact .up hp (ih h₂)
    | down hp hs hu hn _ ih => exact .down hp hs hu hn (ih h₂)
    | through hp hs hu hn _ ih => exact .through hp hs hu hn (by simpa using ih h₂)

theorem leads_of_still {p q : Place} {part : String} {rest : List String} (hs : isStill part = true)
    (h : Leads t p (part :: rest) q) : Leads t p rest q := by
  cases h with
  | still _ _ h => exact h
  | up => exact absurd hs (by decide)
  | down _ hn | through _ hn => simp [hs] at hn

/-! ## Names on the way -/

theorem named_of_leads {p q : Place} {ps : List String} (h : Leads t p ps q)
    (hp : ∀ name ∈ p, IsName name) (hps : ∀ part ∈ ps, '/' ∉ part.toList) :
    ∀ name ∈ q, IsName name := by
  induction h with
  | here p => exact hp
  | still _ _ _ ih => exact ih hp fun m hm => hps m (List.mem_cons_of_mem _ hm)
  | up _ _ ih =>
    exact ih (fun m hm => hp m (List.dropLast_subset _ hm)) fun m hm =>
      hps m (List.mem_cons_of_mem _ hm)
  | @down p q name rest _ hs hu _ _ ih =>
    have hbelow : ∀ m ∈ p ++ [name], IsName m :=
      named_concat hp ⟨hs, hu, hps name List.mem_cons_self⟩
    exact ih hbelow fun m hm => hps m (List.mem_cons_of_mem _ hm)
  | @through p q name target rest _ _ _ _ _ ih =>
    refine ih (fun m hm => ?_) fun m hm => ?_
    · unfold start at hm
      split at hm
      · cases hm
      · exact hp m hm
    · rcases List.mem_append.1 hm with hm | hm
      · exact noSlash_of_mem_parts hm
      · exact hps m (List.mem_cons_of_mem _ hm)

/-! ## Entries stand in directories -/

theorem mem_of_lookup {p : Place} {e : Entry} (h : t.lookup p = some e) (hp : p ≠ []) :
    (p, e) ∈ t.nodes := by
  rw [lookup, if_neg hp] at h
  obtain ⟨_, _, h, _⟩ := List.lookup_eq_some_iff.1 h
  simp [h]

/-- Whether a tree is sound can be read off its nodes. -/
theorem sound_of_nodes (hnamed : ∀ node ∈ t.nodes, ∀ name ∈ node.1, IsName name)
    (hparents : ∀ node ∈ t.nodes, t.lookup node.1.dropLast = some .directory)
    (hworking : t.lookup t.workingDirectory = some .directory) : t.Sound := by
  refine ⟨fun p e h name hn => ?_, fun p name e h => ?_, hworking⟩
  · exact hnamed _ (mem_of_lookup h (List.ne_nil_of_mem hn)) name hn
  · simpa using hparents _ (mem_of_lookup h (by simp))

theorem Sound.working_noSlash (ht : t.Sound) : ∀ name ∈ t.workingDirectory, '/' ∉ name.toList :=
  fun name hn => (ht.named _ _ ht.working name hn).noSlash

theorem Sound.directory_above (ht : t.Sound) : ∀ (rest : List String) {p : Place} {e : Entry},
    rest ≠ [] → t.lookup (p ++ rest) = some e → t.lookup p = some .directory
  | [name], p, e, _, h => ht.parents p name e h
  | name :: next :: rest, p, e, _, h => by
    have hbelow : t.lookup (p ++ [name]) = some .directory :=
      ht.directory_above (next :: rest) (by simp) (by simpa using h)
    exact ht.parents p name _ hbelow

theorem Sound.directory_of_isPrefix (ht : t.Sound) {p q : Place} (h : t.lookup p = some .directory)
    (hq : q <+: p) : t.lookup q = some .directory := by
  obtain ⟨rest, rfl⟩ := hq
  by_cases hr : rest = []
  · simpa [hr] using h
  · exact ht.directory_above rest hr h

/-! ## The walk of the system -/

/-- What an answer of the walk says about where the path leads: there, if something is found or
missing; to the directory of the last part, if that is a link which was not to be followed. -/
inductive Arrives (t : Tree) (follow : Bool) (p : Place) (ps : List String) : Reached → Prop
  | found {q : Place} {e : Entry} : Leads t p ps q → t.lookup q = some e →
      Arrives t follow p ps (.found q e)
  | missing {d : Place} {name : String} : Leads t p ps (d ++ [name]) →
      t.lookup (d ++ [name]) = none → Arrives t follow p ps (.missing d name)
  | link {d : Place} {init : List String} {name target : String} : follow = false →
      ps = init ++ [name] → Leads t p init d → t.lookup (d ++ [name]) = some (.link target) →
      Arrives t follow p ps (.found (d ++ [name]) (.link target))

/-- An answer about the rest of a path is one about the whole path. -/
theorem Arrives.cons {f : Bool} {p q : Place} {part : String} {rest : List String} {r : Reached}
    (hstep : ∀ ps m, Leads t q ps m → Leads t p (part :: ps) m) (h : Arrives t f q rest r) :
    Arrives t f p (part :: rest) r := by
  cases h with
  | found hl he => exact .found (hstep _ _ hl) he
  | missing hl hn => exact .missing (hstep _ _ hl) hn
  | @link d init name target hf hi hl he =>
    have hparts : part :: rest = (part :: init) ++ [name] := congrArg (part :: ·) hi
    exact .link hf hparts (hstep _ _ hl) he

theorem passable_of_directory {p : Place} (h : t.lookup p = some .directory) : t.Passable p := by
  intro content
  rw [h]
  simp

theorem walk_arrives (f : Bool) (k : Nat) (here : Place) (ps : List String) {r : Reached}
    (h : t.walk f k here ps = .ok r) : Arrives t f here ps r := by
  fun_induction t.walk f k here ps with
  | case1 k here e he =>
    obtain rfl := Except.ok.inj h
    exact .found (.here here) he
  | case3 k here part rest hd hs ih =>
    exact (ih h).cons fun _ _ => .still (passable_of_directory hd) hs
  | case4 k here rest hd hs ih =>
    exact (ih h).cons fun _ _ => .up (passable_of_directory hd)
  | case6 k here part hd hs hu hlen hn =>
    obtain rfl := Except.ok.inj h
    have hs : isStill part = false := by simpa using hs
    exact .missing (.down (passable_of_directory hd) hs hu (by simp [hn]) (.here _)) hn
  | case8 k here part rest hd hs hu hlen target hl hend =>
    obtain rfl := Except.ok.inj h
    obtain ⟨rfl, hf⟩ := hend
    have hparts : [part] = [] ++ [part] := rfl
    exact .link (by simpa using hf) hparts (.here here) hl
  | case10 here part rest hd hs hu hlen target hl hend k ih =>
    have hs : isStill part = false := by simpa using hs
    have hp := passable_of_directory hd
    cases ih h with
    | found hq he => exact .found (.through hp hs hu hl hq) he
    | missing hq hn => exact .missing (.through hp hs hu hl hq) hn
    | @link d init name goal hf hi hq he =>
      -- the last part of the path outlives the link, since more than the link was left
      have hrest : rest ≠ [] := fun hr => hend ⟨hr, by simp [hf]⟩
      obtain ⟨init', last, rfl⟩ := (List.eq_nil_or_concat rest).resolve_left hrest
      rw [List.concat_eq_append, ← List.append_assoc] at hi
      obtain ⟨rfl, hlast⟩ := List.append_inj' hi rfl
      obtain rfl := List.singleton_inj.1 hlast
      have hparts : part :: init'.concat last = (part :: init') ++ [last] := by simp
      exact .link hf hparts (.through hp hs hu hl hq) he
  | case11 k here part rest hd hs hu hlen e hne he ih =>
    have hs : isStill part = false := by simpa using hs
    refine (ih h).cons fun _ _ => .down (passable_of_directory hd) hs hu fun target hl => ?_
    rw [he] at hl
    exact hne target (Option.some.inj hl)
  | case2 | case5 | case7 | case9 | case12 | case13 => cases h

/-- What a walk that follows every link finds stands where the path leads. -/
theorem leads_of_walk {k : Nat} {here q : Place} {ps : List String} {e : Entry}
    (h : t.walk true k here ps = .ok (.found q e)) : Leads t here ps q ∧ t.lookup q = some e := by
  cases walk_arrives _ _ _ _ h with
  | found hl he => exact ⟨hl, he⟩
  | link hf => cases hf

theorem walk_under {p : Place} {name : String} (hd : t.lookup p = some .directory)
    (hname : IsName name) (hshort : name.utf8ByteSize ≤ nameLimit) {f : Bool}
    (hl : f = false ∨ ∀ target, t.lookup (p ++ [name]) ≠ some (.link target)) (k : Nat) :
    t.walk f k p [name] = .ok (match t.lookup (p ++ [name]) with
      | some e => .found (p ++ [name]) e
      | none => .missing p name) := by
  rw [walk, hd]
  simp only [hname.step, hname.noParent, Nat.not_lt.2 hshort, Bool.false_eq_true, if_false]
  cases he : t.lookup (p ++ [name]) with
  | none => simp
  | some e =>
    cases e with
    | link target =>
      obtain rfl := hl.resolve_right fun hl => hl target he
      simp
    | directory | file content => simp [walk, he]

theorem walk_directories (f : Bool) (k : Nat) (rest : List String) :
    ∀ (ps : List String) (here : Place),
    (∀ q, q <+: here ++ ps → here <+: q → t.lookup q = some .directory) →
    (∀ name ∈ ps, IsName name) →
    t.walk f k here (ps ++ rest) =
      if ps.all (·.utf8ByteSize ≤ nameLimit) then t.walk f k (here ++ ps) rest
      else .error .nameTooLong
  | [], here, _, _ => by simp
  | name :: ps, here, hd, hn => by
    have hhere := hd here (List.prefix_append _ _) (List.prefix_refl _)
    have hbelow := hd (here ++ [name]) ⟨ps, by simp⟩ (List.prefix_append _ _)
    have hname := hn name List.mem_cons_self
    rw [List.cons_append, walk, hhere]
    simp only [hname.step, hname.noParent, Bool.false_eq_true, if_false]
    by_cases hlen : name.utf8ByteSize > nameLimit
    · have hlong : ¬ name.utf8ByteSize ≤ nameLimit := by omega
      simp [hlen, hlong]
    · have ih := walk_directories f k rest ps (here ++ [name])
        (fun q hq hh => hd q (by simpa using hq) ((List.prefix_append _ _).trans hh))
        (fun m hm => hn m (List.mem_cons_of_mem _ hm))
      simp only [hlen, if_false, hbelow]
      rw [ih]
      have : name.utf8ByteSize ≤ nameLimit := by omega
      simp [this]

/-- The walk to the last name of a place whose directory is there. -/
theorem Sound.walk_text (ht : t.Sound) (f : Bool) (k : Nat) {p : Place}
    (h : t.lookup p = some .directory) (rest : List String) :
    t.walk f k [] (p ++ rest) =
      if p.all (·.utf8ByteSize ≤ nameLimit) then t.walk f k p rest else .error .nameTooLong := by
  refine walk_directories f k rest p [] (fun q hq _ => ?_) (ht.named p _ h)
  exact ht.directory_of_isPrefix h hq

theorem Sound.walk_link (ht : t.Sound) {p : Place} {name target : String}
    (hl : t.lookup (p ++ [name]) = some (.link target)) (k : Nat)
    (hlen : t.walk true k [] (p ++ [name]) ≠ .error .nameTooLong) :
    t.walk false k [] (p ++ [name]) = .ok (.found (p ++ [name]) (.link target)) := by
  have hp := ht.parents p name _ hl
  have hn : IsName name := ht.named _ _ hl name (by simp)
  rw [ht.walk_text true k hp] at hlen
  rw [ht.walk_text false k hp]
  split at hlen
  · next hshort =>
    rw [if_pos hshort]
    have hname : ¬ name.utf8ByteSize > nameLimit := by
      intro h
      simp [walk, hp, hn.step, hn.noParent, h] at hlen
    simp [walk, hp, hn.step, hn.noParent, hname, hl]
  · exact absurd rfl hlen

end Tree
end FetchPlan.Files
