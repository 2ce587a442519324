import FetchPlan.Git
import FetchPlan.Proofs.GrownTrees
import FetchPlan.Proofs.PathsAbove

/-!
The nearest repository. A search through directories ends at the first one whose marker is not
missing, with that directory or with the failure of the look at its marker, and otherwise finds
nothing (`searchEnds_firstRepository`). Along the ancestors of a location that is the deepest such
directory (`isNearest_of_split`), and there is one at most (`IsNearest.unique`); so what the
search answers is told by it alone (`repositoryRoot_eq_iff`). The look at a marker follows no link
at it: it finds whatever entry stands there, a link that leads nowhere too (`entry_joinText`).

What is proved of any tree and any absolute location: when the search finds a directory, when it
finds none, and when it fails and how. Absolute is all that is assumed of the location: the paths
that a run looks up are those of resolved places.
-/
namespace FetchPlan

open Files

namespace Files.Tree

/-! ## What stands under a name -/

variable {t : Tree} {p : Place} {name : String}

theorem reach_eq_walk {f : Bool} {path : String} (hnul : path.contains '\x00' = false)
    (hne : path ≠ "") (hshort : path.utf8ByteSize < pathLimit) :
    t.reach f path = t.walk f linkLimit (start t.workingDirectory path) (parts path) := by
  rw [reach, hnul, if_neg (by simp), if_neg hne, if_neg (by simpa using hshort)]

theorem eq_of_walk_still {tail : List String} (htail : ∀ part ∈ tail, isStill part = true) {k : Nat}
    {here : Place} (h : t.walk true k here tail = .ok (.found p .directory)) :
    here = p ∧ t.lookup p = some .directory := by
  obtain ⟨hl, hp⟩ := leads_of_walk h
  have hnone : tail.filter (!isStill ·) = [] := by
    rw [List.filter_eq_nil_iff]
    intro part hpart
    simp [htail part hpart]
  have hl := leads_filter hl
  rw [hnone] at hl
  cases hl
  exact ⟨rfl, hp⟩

/-- Where a path leads to a directory, the path goes on from there to what stands under a name,
also without the parts at its end that stay where they are. -/
theorem walk_onward {tail : List String} (htail : ∀ part ∈ tail, isStill part = true)
    (hname : IsName name) (hshort : name.utf8ByteSize ≤ nameLimit) (k : Nat) (here : Place)
    (ps : List String) (h : t.walk true k here (ps ++ tail) = .ok (.found p .directory)) :
    t.walk false k here (ps ++ [name]) = .ok (match t.lookup (p ++ [name]) with
      | some e => .found (p ++ [name]) e
      | none => .missing p name) := by
  -- by the steps of the walk without the tail: more of the path comes after each of them, so every
  -- link is followed
  fun_induction t.walk true k here ps with
  | case1 k here | case2 k here =>
    obtain ⟨rfl, hd⟩ := eq_of_walk_still htail h
    exact walk_under hd hname hshort (.inl rfl) k
  | case3 k here part rest hd hs ih =>
    simpa [walk, hd, hs] using ih (by simpa [walk, hd, hs] using h)
  | case4 k here rest hd hs ih => simpa [walk, hd, hs] using ih (by simpa [walk, hd, hs] using h)
  | case5 k here part rest hd hs hu hlen => simp [walk, hd, hs, hu, hlen] at h
  | case6 k here part hd hs hu hlen hn =>
    by_cases hnil : tail = [] <;> simp [walk, hd, hs, hu, hlen, hn, hnil] at h
  | case7 k here part rest hd hs hu hlen hn hr => simp [walk, hd, hs, hu, hlen, hn, hr] at h
  | case8 k here part rest hd hs hu hlen target hl hend => exact absurd rfl hend.2
  | case9 here part rest hd hs hu hlen target hl hend => simp [walk, hd, hs, hu, hlen, hl] at h
  | case10 here part rest hd hs hu hlen target hl hend k ih =>
    have h : t.walk true k (start here target) (parts target ++ rest ++ tail) =
        .ok (.found p .directory) := by
      simpa [walk, hd, hs, hu, hlen, hl] using h
    simpa [walk, hd, hs, hu, hlen, hl] using ih h
  | case11 k here part rest hd hs hu hlen e hne he ih =>
    cases e with
    | link target => exact absurd rfl (hne target)
    | directory =>
      simpa [walk, hd, hs, hu, hlen, he] using ih (by simpa [walk, hd, hs, hu, hlen, he] using h)
    | file content =>
      simpa [walk, hd, hs, hu, hlen, he] using ih (by simpa [walk, hd, hs, hu, hlen, he] using h)
  | case12 k here part rest e hne he =>
    cases e with
    | directory => exact absurd rfl hne
    | file content => simp [walk, he] at h
    | link target => simp [walk, he] at h
  | case13 k here part rest hn => simp [walk, hn] at h

/-- The parts of a path with a name after it, whether or not a slash stood at its end. -/
theorem parts_joinText_name {path : String} (hpath : path ≠ "") (hname : '/' ∉ name.toList) :
    ∃ ps tail, (∀ part ∈ tail, isStill part = true) ∧ parts path = ps ++ tail ∧
      parts (joinText path name) = ps ++ [name] := by
  have hparts : parts name = [name] := by
    rw [parts, Text.fields_of_none (Text.beq_false_of_not_mem hname)]
    simp
  unfold joinText
  rw [if_neg (by simp [isAbsolute_of_noSlash hname])]
  by_cases hslash : path.toList.getLast? = some '/'
  · obtain ⟨front, hfront⟩ := List.getLast?_eq_some_iff.1 hslash
    obtain rfl : path = String.ofList front ++ "/" ++ "" := by
      rw [← String.toList_inj]
      simpa using hfront
    refine ⟨parts (String.ofList front), [""], by decide, parts_append_slash _ _, ?_⟩
    rw [if_pos (.inr hslash), String.append_empty, parts_append_slash, hparts]
  · refine ⟨parts path, [], by simp, by simp, ?_⟩
    rw [if_neg (by simp [hpath, hslash]), parts_append_slash, hparts]

/-- The look at a name in a directory that a path leads to finds what stands there, be it a link
and wherever the link leads, as long as the system takes the path. -/
theorem entry_joinText {path : String} (h : t.reach true path = .ok (.found p .directory))
    (hname : IsName name) (hshort : name.utf8ByteSize ≤ nameLimit)
    (hnul : name.contains '\x00' = false) :
    t.entry false (joinText path name) =
      if pathLimit ≤ (joinText path name).utf8ByteSize then .error .nameTooLong
      else (t.lookup (p ++ [name])).elim (.error .notFound) .ok := by
  obtain ⟨⟨hpathNul, hpath, -⟩, hwalk⟩ := reach_eq_ok_iff.1 h
  obtain ⟨ps, tail, htail, hparts, hjoined⟩ := parts_joinText_name hpath hname.noSlash
  have hrelative := isAbsolute_of_noSlash hname.noSlash
  have hstart : start t.workingDirectory (joinText path name) = start t.workingDirectory path := by
    rw [start, start, isAbsolute_joinText_relative path hrelative]
  have hnone : (joinText path name).contains '\x00' = false := by
    unfold joinText
    rw [if_neg (by simp [hrelative])]
    simp only [String.contains_char_eq, decide_eq_false_iff_not] at hpathNul hnul
    split <;> simp [hpathNul, hnul]
  have hne : joinText path name ≠ "" := by
    unfold joinText
    rw [if_neg (by simp [hrelative])]
    split <;> simp [hpath]
  rw [hparts] at hwalk
  have honward := walk_onward htail hname hshort linkLimit _ ps hwalk
  unfold entry reach
  rw [hnone, if_neg (by simp), if_neg hne, hstart, hjoined, honward]
  split
  · rfl
  · cases t.lookup (p ++ [name]) <;> rfl

end Files.Tree

/-! ## The end of a search -/

/-- The path of the marker of a repository in a directory. -/
def markerOf (directory : String) : String := joinText directory ".git"

/-- What the system says of the marker in a directory, without following a link there. -/
def markerAt (t : Tree) (directory : String) :
    Except IoFailure Entry := t.entry false (markerOf directory)

/-- What a search answers that ends at a directory. -/
def answerAt (t : Tree) (directory : String) : Except Error (Option String) :=
  match markerAt t directory with
  | .ok _ => .ok (some directory)
  | .error e => .error (.io "stat .git" (markerOf directory) e)

/-- How a search through directories ends: when every marker is missing, or at the first one that
is not. -/
inductive SearchEnds (t : Tree) (ds : List String) : Except Error (Option String) → Prop
  | missing : (∀ d ∈ ds, markerAt t d = .error .notFound) → SearchEnds t ds (.ok none)
  | first {before after : List String} {d : String} : ds = before ++ d :: after →
      (∀ b ∈ before, markerAt t b = .error .notFound) → markerAt t d ≠ .error .notFound →
      SearchEnds t ds (answerAt t d)

/-- A directory at or above a location whose marker is not missing, while it is in every deeper
one. -/
structure IsNearest (t : Tree) (location d : String) : Prop where
  atOrAbove : AtOrAbove location d
  notMissing : markerAt t d ≠ .error .notFound
  deeper : ∀ d', AtOrAbove location d' → depth d < depth d' → markerAt t d' = .error .notFound

variable {t : Tree} {location : String}

theorem answerAt_eq_ok_iff {d : String} {answer : Option String} : answerAt t d = .ok answer ↔
    (∃ e, markerAt t d = .ok e) ∧ answer = some d := by
  unfold answerAt
  cases markerAt t d <;> simp [eq_comm]

theorem answerAt_eq_error_iff {d : String} {e : Error} : answerAt t d = .error e ↔
    ∃ f, markerAt t d = .error f ∧ e = .io "stat .git" (markerOf d) f := by
  unfold answerAt
  cases markerAt t d <;> simp [eq_comm]

theorem firstRepository_cons (d : String) (ds : List String) : firstRepository t (d :: ds) =
    if markerAt t d = .error .notFound then firstRepository t ds else answerAt t d := by
  rw [firstRepository, answerAt]
  show (match markerAt t d with | .ok _ => _ | .error e => _) = _
  cases hd : markerAt t d with
  | ok e => simp
  | error e =>
    by_cases he : e = .notFound
    · simp [he]
    · simp [he]
      rfl

theorem searchEnds_firstRepository (t : Tree) :
    ∀ ds : List String, SearchEnds t ds (firstRepository t ds)
  | [] => .missing (by simp)
  | d :: ds => by
    rw [firstRepository_cons]
    by_cases hd : markerAt t d = .error .notFound
    · have hcons {bs : List String} (hbs : ∀ b ∈ bs, markerAt t b = .error .notFound) :
          ∀ b ∈ d :: bs, markerAt t b = .error .notFound := by
        intro b hb
        rcases List.mem_cons.1 hb with rfl | hb
        · exact hd
        · exact hbs b hb
      have ih := searchEnds_firstRepository t ds
      rw [if_pos hd]
      generalize firstRepository t ds = answer at ih
      cases ih with
      | missing hds => exact .missing (hcons hds)
      | @first before after found hds hbefore hfound =>
        have hsplit : d :: ds = (d :: before) ++ found :: after := by rw [hds]; rfl
        exact .first hsplit (hcons hbefore) hfound
    · rw [if_neg hd]
      have hsplit : d :: ds = [] ++ d :: ds := rfl
      exact .first hsplit (by simp) hd

/-! ## The nearest directory -/

/-- The first ancestor whose marker is not missing is the deepest one. -/
theorem isNearest_of_split (h : isAbsolute location = true) {before after : List String}
    {d : String} (hsplit : ancestors location = before ++ d :: after)
    (hbefore : ∀ b ∈ before, markerAt t b = .error .notFound)
    (hd : markerAt t d ≠ .error .notFound) : IsNearest t location d := by
  have hpairs := pairwise_ancestors h
  rw [hsplit] at hpairs
  have hafter := (List.pairwise_cons.1 (List.pairwise_append.1 hpairs).2.1).1
  have hmem {d' : String} : AtOrAbove location d' ↔ d' ∈ before ++ d :: after := by
    rw [← mem_ancestors h, hsplit]
  refine ⟨hmem.2 (by simp), hd, fun d' hd' hdeeper => ?_⟩
  rcases List.mem_append.1 (hmem.1 hd') with hd' | hd'
  · exact hbefore d' hd'
  · rcases List.mem_cons.1 hd' with rfl | hd'
    · exact absurd hdeeper (Nat.lt_irrefl _)
    · exact absurd hdeeper (Nat.lt_asymm (hafter d' hd'))

theorem IsNearest.unique (h : isAbsolute location = true) {d d' : String}
    (hd : IsNearest t location d) (hd' : IsNearest t location d') : d = d' := by
  rcases Nat.lt_trichotomy (depth d) (depth d') with hlt | heq | hgt
  · exact absurd (hd.deeper d' hd'.atOrAbove hlt) hd'.notMissing
  · exact hd.atOrAbove.eq_of_depth h hd'.atOrAbove heq
  · exact absurd (hd'.deeper d hd.atOrAbove hgt) hd.notMissing

/-- The search answers for the nearest directory whose marker is not missing, if there is one. -/
theorem repositoryRoot_cases (t : Tree) (h : isAbsolute location = true) :
    ((∀ d, AtOrAbove location d → markerAt t d = .error .notFound) ∧
      repositoryRoot t location = .ok none) ∨
      ∃ d, IsNearest t location d ∧ repositoryRoot t location = answerAt t d := by
  have hends := searchEnds_firstRepository t (ancestors location)
  rw [← repositoryRoot] at hends
  generalize hroot : repositoryRoot t location = answer at hends
  cases hends with
  | missing hmissing => exact .inl ⟨fun d hd => hmissing d ((mem_ancestors h).2 hd), rfl⟩
  | first hsplit hbefore hd => exact .inr ⟨_, isNearest_of_split h hsplit hbefore hd, rfl⟩

theorem repositoryRoot_eq_iff (t : Tree) (h : isAbsolute location = true)
    {answer : Except Error (Option String)} :
    repositoryRoot t location = answer ↔
      (∀ d, AtOrAbove location d → markerAt t d = .error .notFound) ∧ answer = .ok none ∨
        ∃ d, IsNearest t location d ∧ answerAt t d = answer := by
  have hcases := repositoryRoot_cases t h
  constructor
  · rintro rfl
    exact hcases.imp_right fun ⟨d, hd, hroot⟩ => ⟨d, hd, hroot.symm⟩
  · rintro (⟨hmissing, rfl⟩ | ⟨d, hd, rfl⟩)
    · rcases hcases with ⟨-, hnone⟩ | ⟨d, hd, -⟩
      · exact hnone
      · exact absurd (hmissing d hd.atOrAbove) hd.notMissing
    · rcases hcases with ⟨hmissing, -⟩ | ⟨d', hd', hroot⟩
      · exact absurd (hmissing d hd.atOrAbove) hd.notMissing
      · rw [hroot, hd'.unique h hd]

/-- The search for the repository of a location finds the nearest one only: the deepest directory
at the location or above it where a marker stands, provided that the marker is missing in every
deeper one. It finds none when the marker is missing in all of them, and where it cannot tell of
the deepest one in which the marker is not missing, it fails, whatever stands above. What it finds
in a directory is whatever stands there under the name of the marker, a link that leads nowhere
too. -/
theorem repositoryRoot_iff (t : Tree) (h : isAbsolute location = true) :
    (∀ d, repositoryRoot t location = .ok (some d) ↔
      IsNearest t location d ∧ ∃ e, markerAt t d = .ok e) ∧
    (repositoryRoot t location = .ok none ↔
      ∀ d, AtOrAbove location d → markerAt t d = .error .notFound) ∧
    (∀ e, repositoryRoot t location = .error e ↔
      ∃ d f, IsNearest t location d ∧ markerAt t d = .error f ∧
        e = .io "stat .git" (markerOf d) f) ∧
    ∀ d p, t.reach true d = .ok (.found p .directory) → markerAt t d =
      if Tree.pathLimit ≤ (markerOf d).utf8ByteSize then .error .nameTooLong
      else (t.lookup (p ++ [".git"])).elim (.error .notFound) .ok := by
  refine ⟨fun d => ?_, ?_,
    fun e => ?_, fun d p hd => Tree.entry_joinText hd (by decide) (by decide) (by simp)⟩
  · rw [repositoryRoot_eq_iff t h]
    constructor
    · rintro (⟨-, hnone⟩ | ⟨d', hd', hanswer⟩)
      · cases hnone
      · obtain ⟨hfound, heq⟩ := answerAt_eq_ok_iff.1 hanswer
        obtain rfl := Option.some.inj heq
        exact ⟨hd', hfound⟩
    · rintro ⟨hd, hfound⟩
      exact .inr ⟨d, hd, answerAt_eq_ok_iff.2 ⟨hfound, rfl⟩⟩
  · rw [repositoryRoot_eq_iff t h]
    constructor
    · rintro (⟨hmissing, -⟩ | ⟨d, -, hanswer⟩)
      · exact hmissing
      · cases (answerAt_eq_ok_iff.1 hanswer).2
    · intro hmissing
      exact .inl ⟨hmissing, rfl⟩
  · rw [repositoryRoot_eq_iff t h]
    constructor
    · rintro (⟨-, hnone⟩ | ⟨d, hd, hanswer⟩)
      · cases hnone
      · obtain ⟨f, hfailed⟩ := answerAt_eq_error_iff.1 hanswer
        exact ⟨d, f, hd, hfailed⟩
    · rintro ⟨d, f, hd, hfailed⟩
      exact .inr ⟨d, hd, answerAt_eq_error_iff.2 ⟨f, hfailed⟩⟩

/-- A repository with a directory whose marker is a link that leads nowhere, and with a file. -/
def nested : Tree where
  nodes := [(["r"], .directory), (["r", ".git"], .directory), (["r", "a"], .directory),
    (["r", "a", ".git"], .link "gone"), (["r", "a", "b"], .directory), (["r", "f"], .file [])]
  workingDirectory := []

theorem nested_lookup_r : nested.lookup ["r"] = some .directory := rfl

theorem nested_lookup_a : nested.lookup ["r", "a"] = some .directory := rfl

theorem nested_lookup_b : nested.lookup ["r", "a", "b"] = some .directory := rfl

theorem nested_lookup_f : nested.lookup ["r", "f"] = some (.file []) := rfl

theorem nested_lookup_s : nested.lookup ["s"] = none := rfl

theorem short_nested :
    ∀ name ∈ ["r", "a", "b", "f", "s"], ¬ name.utf8ByteSize > Tree.nameLimit := by
  decide

theorem nested_reach_a : nested.reach true "/r/a" = .ok (.found ["r", "a"] .directory) := by
  have hparts : parts "/r/a" = ["", "r", "a"] := by decide
  have hstart : Tree.start nested.workingDirectory "/r/a" = [] := by decide
  rw [Tree.reach_eq_walk (by simp) (by decide) (by decide), hparts, hstart]
  simp [Tree.walk, Tree.lookup_nil, nested_lookup_r, nested_lookup_a, isStill, short_nested]

theorem nested_reach_b : nested.reach true "/r/a/b/" = .ok (.found ["r", "a", "b"] .directory) := by
  have hparts : parts "/r/a/b/" = ["", "r", "a", "b", ""] := by decide
  have hstart : Tree.start nested.workingDirectory "/r/a/b/" = [] := by decide
  rw [Tree.reach_eq_walk (by simp) (by decide) (by decide), hparts, hstart]
  simp [Tree.walk, Tree.lookup_nil, nested_lookup_r, nested_lookup_a, nested_lookup_b,
    isStill, short_nested]

theorem nested_markerAt_a : markerAt nested "/r/a" = .ok (.link "gone") := by
  have hshort : ¬ Tree.pathLimit ≤ (markerOf "/r/a").utf8ByteSize := by decide
  rw [markerAt, markerOf, Tree.entry_joinText nested_reach_a (by decide) (by decide) (by simp)]
  exact if_neg hshort

theorem nested_markerAt_b : markerAt nested "/r/a/b/" = .error .notFound := by
  have hshort : ¬ Tree.pathLimit ≤ (markerOf "/r/a/b/").utf8ByteSize := by decide
  rw [markerAt, markerOf, Tree.entry_joinText nested_reach_b (by decide) (by decide) (by simp)]
  exact if_neg hshort

theorem repositoryRoot_linked : repositoryRoot nested "/r/a/b/" = .ok (some "/r/a") := by
  have hplaces : ancestors "/r/a/b/" = ["/r/a/b/", "/r/a", "/r", "/"] := by decide
  rw [repositoryRoot, hplaces, firstRepository_cons, if_pos nested_markerAt_b, firstRepository_cons,
    nested_markerAt_a, if_neg (by simp), answerAt, nested_markerAt_a]

/-- What would stand below a file cannot be looked at. -/
theorem nested_markerAt_file : markerAt nested "/r/f/x" = .error .notADirectory := by
  have hparts : parts "/r/f/x/.git" = ["", "r", "f", "x", ".git"] := by decide
  have hstart : Tree.start nested.workingDirectory "/r/f/x/.git" = [] := by decide
  show nested.entry false "/r/f/x/.git" = _
  rw [Tree.entry, Tree.reach_eq_walk (by simp) (by decide) (by decide), hparts, hstart]
  simp [Tree.walk, Tree.lookup_nil, nested_lookup_r, nested_lookup_f, isStill, short_nested]
  rfl

theorem repositoryRoot_file :
    repositoryRoot nested "/r/f/x" = .error (.io "stat .git" "/r/f/x/.git" .notADirectory) := by
  have hplaces : ancestors "/r/f/x" = ["/r/f/x", "/r/f", "/r", "/"] := by decide
  rw [repositoryRoot, hplaces, firstRepository_cons, nested_markerAt_file, if_neg (by decide),
    answerAt, nested_markerAt_file]
  rfl

/-- Below a directory that is missing every marker is missing. -/
theorem nested_markerAt_s : markerAt nested "/s" = .error .notFound := by
  have hparts : parts "/s/.git" = ["", "s", ".git"] := by decide
  have hstart : Tree.start nested.workingDirectory "/s/.git" = [] := by decide
  show nested.entry false "/s/.git" = _
  rw [Tree.entry, Tree.reach_eq_walk (by simp) (by decide) (by decide), hparts, hstart]
  simp [Tree.walk, Tree.lookup_nil, nested_lookup_s, isStill, short_nested]
  rfl

theorem nested_markerAt_x : markerAt nested "/s/x" = .error .notFound := by
  have hparts : parts "/s/x/.git" = ["", "s", "x", ".git"] := by decide
  have hstart : Tree.start nested.workingDirectory "/s/x/.git" = [] := by decide
  show nested.entry false "/s/x/.git" = _
  rw [Tree.entry, Tree.reach_eq_walk (by simp) (by decide) (by decide), hparts, hstart]
  simp [Tree.walk, Tree.lookup_nil, nested_lookup_s, isStill, short_nested]
  rfl

theorem nested_markerAt_root : markerAt nested "/" = .error .notFound := by
  have hparts : parts "/.git" = ["", ".git"] := by decide
  have hstart : Tree.start nested.workingDirectory "/.git" = [] := by decide
  have hgit : nested.lookup [".git"] = none := rfl
  have hshort : ¬ ".git".utf8ByteSize > Tree.nameLimit := by decide
  show nested.entry false "/.git" = _
  rw [Tree.entry, Tree.reach_eq_walk (by simp) (by decide) (by decide), hparts, hstart]
  simp [Tree.walk, Tree.lookup_nil, hgit, isStill, hshort]
  rfl

theorem repositoryRoot_outside : repositoryRoot nested "/s/x" = .ok none := by
  have hplaces : ancestors "/s/x" = ["/s/x", "/s", "/"] := by decide
  rw [repositoryRoot, hplaces, firstRepository_cons, if_pos nested_markerAt_x, firstRepository_cons,
    if_pos nested_markerAt_s, firstRepository_cons, if_pos nested_markerAt_root]
  rfl

theorem repositoryRoot_iff_nested :
    isAbsolute "/r/a/b/" = true ∧ IsNearest nested "/r/a/b/" "/r/a" ∧
      nested.reach true "/r/a" = .ok (.found ["r", "a"] .directory) ∧
      markerAt nested "/r/a" = .ok (.link "gone") ∧
    isAbsolute "/r/f/x" = true ∧
    (∃ d f, IsNearest nested "/r/f/x" d ∧ markerAt nested d = .error f ∧
      Error.io "stat .git" "/r/f/x/.git" .notADirectory = .io "stat .git" (markerOf d) f) ∧
    isAbsolute "/s/x" = true ∧ ∀ d, AtOrAbove "/s/x" d → markerAt nested d = .error .notFound := by
  have hinside : isAbsolute "/r/a/b/" = true := by decide
  have hfile : isAbsolute "/r/f/x" = true := by decide
  have hout : isAbsolute "/s/x" = true := by decide
  obtain ⟨hsome, -, -, hmarker⟩ := repositoryRoot_iff nested hinside
  refine ⟨hinside, ((hsome "/r/a").1 repositoryRoot_linked).1, nested_reach_a,
    hmarker _ _ nested_reach_a, hfile, ?_, hout, ?_⟩
  · exact ((repositoryRoot_iff nested hfile).2.2.1 _).1 repositoryRoot_file
  · exact (repositoryRoot_iff nested hout).2.1.1 repositoryRoot_outside

end FetchPlan
