import FetchPlan.Proofs.FlatSources
import FetchPlan.Proofs.GrownTrees

/-!
What stands in a directory under a name. The path of a directory that is there leads to it and by
a name on from there (`Sound.reach_text`), to what stands under the name or to where it is missing
(`walk_name`). So that path finds the entry (`Sound.entry_text`), writes a file in its place
(`Sound.writeFile_text`) or, where a link stands, in that of its target (`Sound.writeFile_link`),
and is resolved as it is written (`Sound.plain_entry`, `Sound.plain_missing`).
-/
namespace FetchPlan.Files.Tree

/-! ## The path of a name -/

/-- Whether the system takes the text of a place. -/
structure Sayable (p : Place) : Prop where
  names : ∀ name ∈ p, IsName name ∧ name.utf8ByteSize ≤ nameLimit
  noNul : (Place.text p).contains '\x00' = false
  short : (Place.text p).utf8ByteSize < pathLimit

variable {t : Tree} {d : Place} {name : String}

theorem Sound.reach_text (ht : t.Sound) (hp : Sayable (d ++ [name]))
    (hd : t.lookup d = some .directory) (f : Bool) :
    t.reach f (Place.text (d ++ [name])) = t.walk f linkLimit d [name] := by
  have hparts : parts (Place.text (d ++ [name])) = "" :: (d ++ [name]) :=
    parts_text (by simp) fun m hm => (hp.names m hm).1.noSlash
  have hne : Place.text (d ++ [name]) ≠ "" := by simp [Place.text]
  have hshort : d.all (·.utf8ByteSize ≤ nameLimit) = true := by
    rw [List.all_eq_true]
    intro m hm
    simpa using (hp.names m (List.mem_append_left _ hm)).2
  have hwalk : t.walk f linkLimit [] (d ++ [name]) = t.walk f linkLimit d [name] := by
    rw [ht.walk_text f linkLimit hd, hshort, if_pos rfl]
  rw [reach, hp.noNul, if_neg (by simp), if_neg hne, if_neg (Nat.not_le.2 hp.short), start,
    if_pos (isAbsolute_text _), hparts, walk, lookup_nil, ← hwalk]
  rfl

theorem walk_name (hd : t.lookup d = some .directory) (hp : Sayable (d ++ [name]))
    (hl : ∀ target, t.lookup (d ++ [name]) ≠ some (.link target)) (f : Bool) (k : Nat) :
    t.walk f k d [name] = .ok (match t.lookup (d ++ [name]) with
      | some e => .found (d ++ [name]) e
      | none => .missing d name) := by
  obtain ⟨hname, hshort⟩ := hp.names name (by simp)
  exact walk_under hd hname hshort (.inr hl) k

theorem Sound.entry_text (ht : t.Sound) (hp : Sayable (d ++ [name]))
    (hd : t.lookup d = some .directory)
    (hl : ∀ target, t.lookup (d ++ [name]) ≠ some (.link target)) (f : Bool) :
    t.entry f (Place.text (d ++ [name])) =
      (t.lookup (d ++ [name])).elim (.error .notFound) .ok := by
  unfold entry
  rw [ht.reach_text hp hd, walk_name hd hp hl]
  cases t.lookup (d ++ [name]) <;> rfl

theorem Sound.pointsTo_text (ht : t.Sound) (hp : Sayable (d ++ [name]))
    (hd : t.lookup d = some .directory)
    (hl : ∀ target, t.lookup (d ++ [name]) ≠ some (.link target)) :
    t.PointsTo (Place.text (d ++ [name])) (d ++ [name]) := by
  have hreach := ht.reach_text hp hd true
  rw [walk_name hd hp hl] at hreach
  have hplace := (pointsTo_of_reach hreach).1
  cases he : t.lookup (d ++ [name]) with
  | none =>
    rw [he] at hplace
    exact hplace
  | some e =>
    rw [he] at hplace
    exact hplace

/-! ## Making and writing -/

theorem Sound.makeDirectories_text (ht : t.Sound) (hp : Sayable (d ++ [name]))
    (hd : t.lookup d = some .directory) (hthere : t.lookup (d ++ [name]) = some .directory)
    (hend : withoutEnd (Place.text (d ++ [name])) = Place.text (d ++ [name])) :
    t.makeDirectories (Place.text (d ++ [name])) = .ok t := by
  have hwalk (f : Bool) :
      t.reach f (Place.text (d ++ [name])) = .ok (.found (d ++ [name]) .directory) := by
    rw [ht.reach_text hp hd, walk_name hd hp (by simp [hthere]), hthere]
  have hmake : t.makeDirectory (Place.text (d ++ [name])) = .error .fileExists := by
    unfold makeDirectory make
    rw [hend, hwalk]
    rfl
  have hdirectory : t.isDirectory (Place.text (d ++ [name])) = true := by
    unfold isDirectory entry
    rw [hwalk]
    rfl
  have hne : Place.text (d ++ [name]) ≠ "" := by simp [Place.text]
  have hother : IoFailure.fileExists ≠ .notFound := by decide
  unfold makeDirectories ancestors
  rw [makeFirst, if_neg hne, hmake]
  simp [hdirectory, hother]

theorem Sound.writeFile_text (ht : t.Sound) (hp : Sayable (d ++ [name]))
    (hd : t.lookup d = some .directory)
    (hfile : t.lookup (d ++ [name]) = none ∨ ∃ old, t.lookup (d ++ [name]) = some (.file old))
    (content : List UInt8) :
    t.writeFile (Place.text (d ++ [name])) content = .ok (t.put (d ++ [name]) (.file content)) := by
  unfold writeFile
  rcases hfile with hnone | ⟨old, hold⟩
  · rw [ht.reach_text hp hd, walk_name hd hp (by simp [hnone]), hnone]
    rfl
  · rw [ht.reach_text hp hd, walk_name hd hp (by simp [hold]), hold]
    rfl

/-- A link in a directory to a name that is missing there is written through. -/
theorem Sound.writeFile_link (ht : t.Sound) {target : String} (hp : Sayable (d ++ [name]))
    (htarget : Sayable (d ++ [target])) (hd : t.lookup d = some .directory)
    (hl : t.lookup (d ++ [name]) = some (.link target)) (hnone : t.lookup (d ++ [target]) = none)
    (content : List UInt8) :
    t.writeFile (Place.text (d ++ [name])) content =
      .ok (t.put (d ++ [target]) (.file content)) := by
  obtain ⟨hname, hshort⟩ := hp.names name (by simp)
  obtain ⟨hrelative, -⟩ := htarget.names target (by simp)
  have hstart : start d target = d := by
    unfold start
    rw [isAbsolute_of_noSlash hrelative.noSlash]
    rfl
  have hparts : parts target = [target] := by
    have := parts_intercalate (p := [target]) (by simp) (by simpa using hrelative.noSlash)
    simpa using this
  have hwalk : t.walk true linkLimit d [name] = .ok (.missing d target) := by
    rw [walk, hd]
    simp only [hname.step, hname.noParent, Nat.not_lt.2 hshort, Bool.false_eq_true, if_false, hl,
      not_true, and_false]
    show t.walk true 39 (start d target) (parts target ++ []) = _
    rw [hstart, hparts, List.append_nil, walk_name hd htarget (by simp [hnone]), hnone]
  unfold writeFile
  rw [ht.reach_text hp hd, hwalk]
  rfl

/-! ## Places that are reached as they are written -/

/-- What stands in a directory is reached as it is written, unless it is a link. -/
theorem Sound.plain_entry (ht : t.Sound) (hd : t.lookup d = some .directory)
    (hp : Nameable (d ++ [name])) {e : Entry} (he : t.lookup (d ++ [name]) = some e)
    (hl : ∀ target, e ≠ .link target) : t.Plain (d ++ [name]) := by
  have habove : ∀ q, q <+: d → t.lookup q = some .directory :=
    fun q hq => ht.directory_of_isPrefix hd hq
  refine ⟨fun m hm => (hp.names m hm).1, fun m hm => (hp.names m hm).2, hp.noNul, ?_, ?_⟩
  · intro q hq target hlink
    rcases List.prefix_concat_iff.1 hq with rfl | hq
    · rw [he, Option.some.injEq] at hlink
      exact hl target hlink
    · rw [habove q hq] at hlink
      cases hlink
  · intro q hq hne content hfile
    rcases List.prefix_concat_iff.1 hq with rfl | hq
    · exact hne rfl
    · rw [habove q hq] at hfile
      cases hfile

/-- What is missing in a directory is reached as it is written, with what would stand below it. -/
theorem Sound.plain_missing (ht : t.Sound) {rest : Place} (hd : t.lookup d = some .directory)
    (hp : Nameable (d ++ [name] ++ rest)) (hnone : t.lookup (d ++ [name]) = none) :
    t.Plain (d ++ [name] ++ rest) := by
  have hlookup : ∀ q,
      q <+: d ++ [name] ++ rest → t.lookup q = some .directory ∨ t.lookup q = none := by
    intro q hq
    rcases List.prefix_or_prefix_of_prefix hq (List.prefix_append _ rest) with hq | ⟨below, rfl⟩
    · rcases List.prefix_concat_iff.1 hq with rfl | hq
      · exact .inr hnone
      · exact .inl (ht.directory_of_isPrefix hd hq)
    · right
      cases he : t.lookup (d ++ [name] ++ below) with
      | none => rfl
      | some e =>
        by_cases hbelow : below = []
        · simp [hbelow, hnone] at he
        · rw [ht.directory_above below hbelow he] at hnone
          cases hnone
  refine ⟨fun m hm => (hp.names m hm).1, fun m hm => (hp.names m hm).2, hp.noNul, ?_, ?_⟩
  · intro q hq target hlink
    rcases hlookup q hq with h | h <;> · rw [h] at hlink; cases hlink
  · intro q hq _ content hfile
    rcases hlookup q hq with h | h <;> · rw [h] at hfile; cases hfile

end FetchPlan.Files.Tree
