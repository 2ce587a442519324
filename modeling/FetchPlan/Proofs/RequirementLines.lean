import FetchPlan.Proofs.CutText
import FetchPlan.Proofs.RefusableSteps
import FetchPlan.Requirements.Reader

/-!
How the lines of a requirements file go together. A text that ends with a whole line, not
continued, is read by itself whatever follows it (`logicalLines_append`), and what a line adds to
a file does not depend on what the file holds already (`add_followedBy`). So a file may be cut
after such a line: an error in the first part comes first, and without errors the file is that of
the first part followed by that of the other (`parse_append_cases`). A comment line leaves nothing
behind, but a backslash at its end joins it with what follows: then the first logical line after
it goes with the comment (`logicalLines_comment`), and a requirement on that line is lost without
an error. So a comment line may be left out exactly when it is not continued or that line makes no
difference (`parse_comment_line`).

What is proved of all texts: the case table of a text that follows another one, with the order of
errors; and when a comment line makes a difference. A comment line that is continued takes a
requirement with it and no error is given (`continued_comment_takes_requirement`).
-/
namespace FetchPlan.Requirements

/-- The line without the carriage return that belongs to its end. -/
def withoutReturn (c : List Char) : List Char := if c.getLast? = some '\r' then c.dropLast else c

/-- Whether a text is made of whole lines, of which the last is not continued. -/
def EndsWhole (s : List Char) : Prop :=
  s = [] ∨ s.getLast? = some '\n' ∧ ∀ l ∈ (Text.lines s).getLast?, l.getLast? ≠ some '\\'

/-- Whether the first character of a text that is no blank begins a comment. -/
def IsMarked (c : List Char) : Prop := (Text.trimStart c).head? = some '#'

/-- Whether a text is one line of nothing but a comment. -/
structure IsCommentLine (c : List Char) : Prop where
  oneLine : '\n' ∉ c
  marked : IsMarked c

def IsContinued (c : List Char) : Prop := (withoutReturn c).getLast? = some '\\'

instance (s : List Char) : Decidable (EndsWhole s) := inferInstanceAs (Decidable (_ ∨ _ ∧ _))
instance (c : List Char) : Decidable (IsMarked c) := inferInstanceAs (Decidable (_ = _))
instance (c : List Char) : Decidable (IsContinued c) := inferInstanceAs (Decidable (_ = _))

def parseLines (what : String) (ls : List (List Char)) : Except Error Requirements := do
  let ls ← ls.mapM (line what)
  pure (ls.foldl add empty)

theorem parse_eq_parseLines (what text : String) :
    parse what text = parseLines what (logicalLines text.toList) := rfl

/-! ## Lines of a text -/

theorem lines_cons {c : Char} {r : List Char} (hc : c ≠ '\n')
    (hr : c = '\r' → r.head? ≠ some '\n') :
    Text.lines (c :: r) = (c :: (Text.lines r).headD []) :: (Text.lines r).tail := by
  rw [Text.lines]
  · cases Text.lines r <;> rfl
  · exact hc
  · intro s h hs
    exact hr h (by simp [hs])

theorem lines_ne_nil {c : Char} {r : List Char} : Text.lines (c :: r) ≠ [] := by
  by_cases hc : c = '\n'
  · subst hc; simp [Text.lines]
  · by_cases hr : c = '\r' → r.head? ≠ some '\n'
    · rw [lines_cons hc hr]; simp
    · obtain ⟨rfl, s, rfl⟩ : c = '\r' ∧ ∃ s, r = '\n' :: s := by
        simpa [List.head?_eq_some_iff] using hr
      simp [Text.lines]

theorem lines_append_lineFeed (b : List Char) : ∀ a : List Char,
    Text.lines (a ++ '\n' :: b) = Text.lines (a ++ ['\n']) ++ Text.lines b
  | [] => rfl
  | c :: a => by
    have ih := lines_append_lineFeed b a
    by_cases hc : c = '\n'
    · subst hc; simp [Text.lines, ih]
    · -- a carriage return ends a line only with the line feed, which may be the one after `a`
      by_cases hr : c = '\r' → (a ++ ['\n']).head? ≠ some '\n'
      · have hr' : c = '\r' → (a ++ '\n' :: b).head? ≠ some '\n' := by
          intro h; have := hr h; cases a <;> simp_all
        have hne : Text.lines (a ++ ['\n']) ≠ [] := by
          cases a with
          | nil => simp [Text.lines]
          | cons d a => exact lines_ne_nil
        obtain ⟨l, ls, hl⟩ := List.exists_cons_of_ne_nil hne
        rw [List.cons_append, List.cons_append, lines_cons hc hr, lines_cons hc hr', ih, hl]
        rfl
      · obtain ⟨rfl, h⟩ : c = '\r' ∧ (a ++ ['\n']).head? = some '\n' := by simpa using hr
        cases a with
        | nil => rfl
        | cons d a =>
          obtain rfl : d = '\n' := by simpa using h
          have ih := lines_append_lineFeed b a
          simp [Text.lines, ih]

theorem lines_append {a : List Char} (ha : a = [] ∨ a.getLast? = some '\n') (b : List Char) :
    Text.lines (a ++ b) = Text.lines a ++ Text.lines b := by
  rcases ha with rfl | ha
  · rfl
  · obtain ⟨s, rfl⟩ := List.getLast?_eq_some_iff.1 ha
    simpa using lines_append_lineFeed b s

theorem lines_of_oneLine :
    ∀ {c : List Char}, '\n' ∉ c → Text.lines (c ++ ['\n']) = [withoutReturn c]
  | [], _ => rfl
  | x :: c, h => by
    obtain ⟨hx, hc⟩ : '\n' ≠ x ∧ '\n' ∉ c := by simpa using h
    by_cases hr : x = '\r' → (c ++ ['\n']).head? ≠ some '\n'
    · rw [List.cons_append, lines_cons (Ne.symm hx) hr, lines_of_oneLine hc]
      cases c with
      | nil =>
        have : x ≠ '\r' := by intro h; simp [h] at hr
        simp [withoutReturn, this]
      | cons y c => by_cases hl : (y :: c).getLast? = some '\r' <;> simp [withoutReturn, hl]
    · obtain ⟨rfl, hn⟩ : x = '\r' ∧ (c ++ ['\n']).head? = some '\n' := by simpa using hr
      cases c with
      | nil => rfl
      | cons y c =>
        obtain rfl : y = '\n' := by simpa using hn
        simp at hc

/-! ## Joining lines -/

theorem joinLines_append (ms : List (List Char)) : ∀ (ls : List (List Char)) (pending : List Char),
    (ls = [] → pending = []) → (∀ l, ls.getLast? = some l → l.getLast? ≠ some '\\') →
    joinLines pending (ls ++ ms) = joinLines pending ls ++ joinLines [] ms
  | [], pending, hp, _ => by simp [hp rfl, joinLines]
  | l :: ls, pending, _, hl => by
    have hls : ∀ m, ls.getLast? = some m → m.getLast? ≠ some '\\' := by
      intro m hm
      cases ls with
      | nil => simp at hm
      | cons x xs => exact hl m (by simpa using hm)
    by_cases hc : l.getLast? = some '\\'
    · have hne : ls ≠ [] := by
        rintro rfl
        exact hl l rfl hc
      simp only [List.cons_append, joinLines, continued?, hc, if_true]
      exact joinLines_append ms ls _ (fun h => absurd h hne) hls
    · simp only [List.cons_append, joinLines, continued?, hc, if_false]
      rw [joinLines_append ms ls [] (fun _ => rfl) hls]

/-- What waits to be continued goes before the first line. -/
theorem joinLines_pending {p : List Char} (hp : p ≠ []) : ∀ (q : List Char) (ms : List (List Char)),
    joinLines (p ++ q) ms = (p ++ (joinLines q ms).headD []) :: (joinLines q ms).tail
  | q, [] => by by_cases hq : q = [] <;> simp [joinLines, hp, hq]
  | q, m :: ms => by
    by_cases hc : m.getLast? = some '\\'
    · simp only [joinLines, continued?, hc, if_true]
      rw [← joinLines_pending hp]
      simp
    · simp [joinLines, continued?, hc]

theorem logicalLines_append {a : List Char} (ha : EndsWhole a) (b : List Char) :
    logicalLines (a ++ b) = logicalLines a ++ logicalLines b := by
  have hlines : Text.lines (a ++ b) = Text.lines a ++ Text.lines b :=
    lines_append (ha.imp_right And.left) b
  rw [logicalLines, hlines]
  apply joinLines_append
  · exact fun _ => rfl
  · rcases ha with rfl | ⟨-, ha⟩
    · simp [Text.lines]
    · exact ha

/-! ## Comment lines -/

theorem IsMarked.append {c : List Char} (h : IsMarked c) (x : List Char) : IsMarked (c ++ x) := by
  unfold IsMarked Text.trimStart at *
  rw [List.dropWhile_append]
  cases hd : List.dropWhile Text.isBlank c with
  | nil => simp [hd] at h
  | cons y ys => simpa [hd] using h

/-- The mark of a comment is not its last character, where that is another one. -/
theorem IsMarked.of_append {c : List Char} {z : Char} (hz : z ≠ '#') (h : IsMarked (c ++ [z])) :
    IsMarked c := by
  unfold IsMarked Text.trimStart at *
  rw [List.dropWhile_append] at h
  cases hd : List.dropWhile Text.isBlank c with
  | nil =>
    by_cases hb : Text.isBlank z <;> simp [hd, hb, hz] at h
  | cons y ys => simpa [hd] using h

theorem IsMarked.withoutReturn {c : List Char} (h : IsMarked c) : IsMarked (withoutReturn c) := by
  unfold Requirements.withoutReturn
  split
  · next hl =>
    obtain ⟨s, rfl⟩ := List.getLast?_eq_some_iff.1 hl
    simpa using h.of_append (by decide)
  · exact h

theorem line_of_marked (what : String) {c : List Char} (h : IsMarked c) :
    line what c = .ok .empty := by
  have hc : withoutComment c = [] := if_pos h
  simp [line, hc, Text.trim, Text.trimStart, Text.trimEnd]

theorem parseLines_empty {what : String} {l : List Char} (h : line what l = .ok .empty)
    (ls ms : List (List Char)) :
    parseLines what (ls ++ l :: ms) = parseLines what (ls ++ ms) := by
  simp only [parseLines, List.mapM_append, List.mapM_cons, h]
  cases ls.mapM (line what) with
  | error e => rfl
  | ok xs =>
    cases ms.mapM (line what) with
    | error e => rfl
    | ok ys => simp [pure, Except.pure, bind, Except.bind, add]

/-- A comment line gives one logical line that begins with its mark. If it is continued, it takes
the first logical line after it along. -/
theorem logicalLines_comment {c : List Char} (h : IsCommentLine c) (b : List Char) :
    ∃ l, IsMarked l ∧ logicalLines (c ++ '\n' :: b) =
      l :: (logicalLines b).drop (if IsContinued c then 1 else 0) := by
  have hlines : Text.lines (c ++ '\n' :: b) = withoutReturn c :: Text.lines b := by
    rw [lines_append_lineFeed, lines_of_oneLine h.oneLine]
    rfl
  have hm := h.marked.withoutReturn
  unfold logicalLines
  rw [hlines]
  by_cases hc : IsContinued c
  · -- the comment waits for the next line, and what they make together still begins with its mark
    obtain ⟨s, hs⟩ := List.getLast?_eq_some_iff.1 hc
    rw [hs] at hm
    have hm := (hm.of_append (by decide)).append [' ']
    have hj : joinLines [] (withoutReturn c :: Text.lines b) =
        joinLines (s ++ [' '] ++ []) (Text.lines b) := by
      simp [joinLines, continued?, hs]
    rw [hj, joinLines_pending (by simp) [] (Text.lines b), if_pos hc, List.drop_one]
    exact ⟨_, hm.append _, rfl⟩
  · have hj : joinLines [] (withoutReturn c :: Text.lines b) = withoutReturn c ::
        joinLines [] (Text.lines b) := by
      have : ¬ (withoutReturn c).getLast? = some '\\' := hc
      simp [joinLines, continued?, this]
    exact ⟨_, hm, by simp [hj, hc]⟩

/-- What is read when a comment line stands between two texts. -/
theorem parse_comment (what : String) {a c : String} (ha : EndsWhole a.toList)
    (hc : IsCommentLine c.toList) (b : String) :
    parse what (a ++ c ++ "\n" ++ b) = parseLines what (logicalLines a.toList ++
      (logicalLines b.toList).drop (if IsContinued c.toList then 1 else 0)) := by
  obtain ⟨l, hl, hlines⟩ := logicalLines_comment hc b.toList
  have htext : (a ++ c ++ "\n" ++ b).toList = a.toList ++ (c.toList ++ '\n' :: b.toList) := by
    simp
  rw [parse_eq_parseLines, htext, logicalLines_append ha, hlines,
    parseLines_empty (line_of_marked what hl)]

/-! ## What a line adds -/

def Line.requirement? : Line → Option Requirement
  | .requirement r => some r
  | _ => none

theorem foldl_set_requirements : ∀ (settings : List Setting) (f : Requirements),
    (settings.foldl set f).requirements = f.requirements
  | [], _ => rfl
  | s :: settings, f => by
    have hs : (set f s).requirements = f.requirements := by cases s <;> rfl
    rw [List.foldl_cons, foldl_set_requirements settings, hs]

theorem foldl_add_requirements : ∀ (ls : List Line) (f : Requirements),
    (ls.foldl add f).requirements = f.requirements ++ ls.filterMap Line.requirement?
  | [], f => by simp
  | .empty :: ls, f => foldl_add_requirements ls f
  | .options settings :: ls, f => by
    have hs : (add f (.options settings)).requirements = f.requirements :=
      foldl_set_requirements settings f
    rw [List.foldl_cons, foldl_add_requirements ls, hs]
    rfl
  | .requirement r :: ls, f => by
    rw [List.foldl_cons, foldl_add_requirements ls]
    simp [add, Line.requirement?]

/-- A file followed by another one: it has the requirements of both, the index of the second one
where that has one, and it asks for hashes where either does. -/
def followedBy (f g : Requirements) : Requirements where
  indexUrl := g.indexUrl.or f.indexUrl
  requireHashes := f.requireHashes || g.requireHashes
  requirements := f.requirements ++ g.requirements

theorem followedBy_empty (f : Requirements) : f.followedBy empty = f := by
  simp [followedBy, empty]

theorem set_followedBy (f g : Requirements) (s : Setting) :
    set (f.followedBy g) s = f.followedBy (set g s) := by
  cases s with
  | indexUrl url => simp [set, followedBy]
  | requireHashes => simp [set, followedBy]
  | trustedHost => rfl

theorem foldl_set_followedBy (f : Requirements) : ∀ (settings : List Setting) (g : Requirements),
    settings.foldl set (f.followedBy g) = f.followedBy (settings.foldl set g)
  | [], _ => rfl
  | s :: settings, g => by
    rw [List.foldl_cons, set_followedBy, foldl_set_followedBy f settings, List.foldl_cons]

theorem add_followedBy (f g : Requirements) (l : Line) :
    add (f.followedBy g) l = f.followedBy (add g l) := by
  cases l with
  | empty => rfl
  | options settings => exact foldl_set_followedBy f settings g
  | requirement r => simp [add, followedBy]

theorem foldl_add_followedBy (f : Requirements) : ∀ (ls : List Line) (g : Requirements),
    ls.foldl add (f.followedBy g) = f.followedBy (ls.foldl add g)
  | [], _ => rfl
  | l :: ls, g => by
    rw [List.foldl_cons, add_followedBy, foldl_add_followedBy f ls, List.foldl_cons]

/-- Lines make the file of the first ones followed by that of the others, wherever they are cut. -/
theorem foldl_add_append (xs ys : List Line) :
    (xs ++ ys).foldl add empty = (xs.foldl add empty).followedBy (ys.foldl add empty) := by
  rw [List.foldl_append, ← foldl_add_followedBy, followedBy_empty]

/-- Of lines with a requirement among them, the others make the same file without it. -/
theorem foldl_add_drop (xs ys : List Line) (r : Requirement) :
    ∃ before after,
      ((xs ++ .requirement r :: ys).foldl add empty).requirements = before ++ r :: after ∧
      (xs ++ ys).foldl add empty =
        { (xs ++ .requirement r :: ys).foldl add empty with requirements := before ++ after } := by
  let f := xs.foldl add empty
  let g := ys.foldl add empty
  let one : Requirements := ⟨none, false, [r]⟩
  have hrest : (.requirement r :: ys : List Line).foldl add empty = one.followedBy g :=
    foldl_add_append [.requirement r] ys
  refine ⟨f.requirements, g.requirements, ?_, ?_⟩
  · rw [foldl_add_append, hrest]
    rfl
  · rw [foldl_add_append, foldl_add_append, hrest]
    simp [followedBy, one, f, g]

/-- Lines that are read stay readable without one of them that holds a requirement. -/
theorem parseLines_drop {what : String} {ls ms : List (List Char)} {l : List Char} {r : Requirement}
    {file : Requirements} (hl : line what l = .ok (.requirement r))
    (h : parseLines what (ls ++ l :: ms) = .ok file) :
    ∃ before after, file.requirements = before ++ r :: after ∧
      parseLines what (ls ++ ms) = .ok { file with requirements := before ++ after } := by
  simp only [parseLines, List.mapM_append, List.mapM_cons, hl] at h ⊢
  cases hx : ls.mapM (line what) with
  | error e => rw [hx] at h; cases h
  | ok xs =>
    rw [hx] at h
    cases hy : ms.mapM (line what) with
    | error e => rw [hy] at h; cases h
    | ok ys =>
      rw [hy] at h
      obtain ⟨before, after, hb, hd⟩ := foldl_add_drop xs ys r
      obtain rfl : (xs ++ .requirement r :: ys).foldl add empty = file := Except.ok.inj h
      exact ⟨before, after, hb, congrArg Except.ok hd⟩

/-! ## Lines that hold a requirement -/

def lineText (raw : List Char) : List Char := Text.trim (withoutComment raw)

/-- Whether a line holds a requirement: it is neither empty nor one of options. -/
def HoldsRequirement (s : List Char) : Prop := s ≠ [] ∧ s.head? ≠ some '-'

instance (s : List Char) : Decidable (HoldsRequirement s) := inferInstanceAs (Decidable (_ ∧ _))

/-- The lines of a text that hold a requirement. -/
def requirementLines (text : String) : List (List Char) :=
  ((logicalLines text.toList).map lineText).filter fun s => HoldsRequirement s

theorem line_cases {what : String} {raw : List Char} {l : Line} (h : line what raw = .ok l) :
    (¬ HoldsRequirement (lineText raw) ∧ l.requirement? = none) ∨
      HoldsRequirement (lineText raw) ∧ ∃ r,
      l.requirement? = some r ∧ requirement (lineText raw) = .ok r := by
  simp only [line] at h
  rw [← lineText] at h
  split at h
  · next hs =>
    cases h
    exact .inl ⟨fun hr => hr.1 hs, rfl⟩
  · next hs =>
    split at h
    · cases h
      exact .inl ⟨fun hr => hr.2 (by rw [hs]; rfl), rfl⟩
    · cases h
  · next hempty hhyphen =>
    split at h
    · next r hr =>
      cases h
      refine .inr ⟨⟨hempty, fun hs => ?_⟩, r, rfl, hr⟩
      obtain ⟨s, hs⟩ := List.head?_eq_some_iff.1 hs
      exact hhyphen s hs
    · cases h

theorem requirements_of_lines {what : String} {raws : List (List Char)} {ls : List Line}
    (h : List.Forall₂ (fun raw l => line what raw = .ok l) raws ls) :
    List.Forall₂ (fun s r => requirement s = .ok r)
      ((raws.map lineText).filter fun s => HoldsRequirement s)
      (ls.filterMap Line.requirement?) := by
  induction h with
  | nil => exact .nil
  | @cons raw l raws ls hl _ ih =>
    rcases line_cases hl with ⟨hnone, hl⟩ | ⟨hsome, r, hl, hr⟩
    · rw [List.map_cons, List.filter_cons_of_neg (by simpa using hnone),
        List.filterMap_cons_none hl]
      exact ih
    · rw [List.map_cons, List.filter_cons_of_pos (by simpa using hsome),
        List.filterMap_cons_some hl]
      exact .cons hr ih

theorem requirements_of_parse {what text : String} {f : Requirements}
    (h : parse what text = .ok f) :
    List.Forall₂ (fun s r => requirement s = .ok r) (requirementLines text) f.requirements := by
  obtain ⟨ls, hls, h⟩ := ok_of_bind h
  obtain rfl := Except.ok.inj h
  have hadd : (ls.foldl add empty).requirements = ls.filterMap Line.requirement? :=
    foldl_add_requirements ls empty
  rw [hadd]
  exact requirements_of_lines (mapM_eq_ok_iff.1 hls)

theorem of_mem_requirementLines {text : String} {s : List Char} (hs : s ∈ requirementLines text) :
    HoldsRequirement s ∧ ∀ c ∈ s.head?, Text.isBlank c = false := by
  obtain ⟨hmem, hholds⟩ := List.mem_filter.1 hs
  obtain ⟨raw, -, rfl⟩ := List.mem_map.1 hmem
  exact ⟨by simpa using hholds, Text.head?_trim _⟩

/-! ## Two parts of a file -/

/-- The file of lines that follow others, or the error of the first line that is refused. -/
theorem parseLines_append (what : String) (ls ms : List (List Char)) :
    parseLines what (ls ++ ms) =
      match parseLines what ls, parseLines what ms with
      | .error e, _ => .error e
      | .ok _, .error e => .error e
      | .ok f, .ok g => .ok (f.followedBy g) := by
  simp only [parseLines, List.mapM_append]
  cases ls.mapM (line what) with
  | error e => rfl
  | ok xs =>
    cases ms.mapM (line what) with
    | error e => rfl
    | ok ys => exact congrArg Except.ok (foldl_add_append xs ys)

/-- Where a text ends with a whole line that is not continued, it is read alike with any text after
it: an error in it comes first, then one in what follows, and without errors the file is that of
the text followed by the other. -/
theorem parse_append_cases (what : String) {a : String} (ha : EndsWhole a.toList) (b : String) :
    parse what (a ++ b) =
      match parse what a, parse what b with
      | .error e, _ => .error e
      | .ok _, .error e => .error e
      | .ok f, .ok g => .ok (f.followedBy g) := by
  simp only [parse_eq_parseLines, String.toList_append, logicalLines_append ha]
  exact parseLines_append what _ _

/-- Options and requirements of both parts, with carriage returns and continued lines in either. -/
theorem parse_append_cases_options :
    EndsWhole "--require-hashes \\\r\n -i u\r\na==1 --hash=x:y\r\n".toList ∧
      parse "r" "--require-hashes \\\r\n -i u\r\na==1 --hash=x:y\r\n" =
        .ok ⟨some "u", true, [⟨"a", [], none, ["x:y"], .version "1"⟩]⟩ ∧
      parse "r" "b==2 \\\n --hash=x:z\n-i v" =
        .ok ⟨some "v", false, [⟨"b", [], none, ["x:z"], .version "2"⟩]⟩ ∧
      parse "r"
        ("--require-hashes \\\r\n -i u\r\na==1 --hash=x:y\r\n" ++ "b==2 \\\n --hash=x:z\n-i v") =
        .ok ⟨some "v", true,
          [⟨"a", [], none, ["x:y"], .version "1"⟩, ⟨"b", [], none, ["x:z"], .version "2"⟩]⟩ := by
  have ha : EndsWhole "--require-hashes \\\r\n -i u\r\na==1 --hash=x:y\r\n".toList := by decide
  have hfirst : parse "r" "--require-hashes \\\r\n -i u\r\na==1 --hash=x:y\r\n" =
      .ok ⟨some "u", true, [⟨"a", [], none, ["x:y"], .version "1"⟩]⟩ := by rfl
  have hsecond : parse "r" "b==2 \\\n --hash=x:z\n-i v" =
      .ok ⟨some "v", false, [⟨"b", [], none, ["x:z"], .version "2"⟩]⟩ := by rfl
  refine ⟨ha, hfirst, hsecond, ?_⟩
  rw [parse_append_cases "r" ha, hfirst, hsecond]
  rfl

/-! ## Leaving a comment line out -/

/-- Whether a text is read with or without a comment line in it is the same exactly when the line
is not continued or the first logical line after it makes no difference. Where that is a line with
a requirement, all else is read as before, and the requirement is lost. -/
theorem parse_comment_line (what : String) {a c : String} (ha : EndsWhole a.toList)
    (hc : IsCommentLine c.toList) (b : String) :
    (parse what (a ++ c ++ "\n" ++ b) = parse what (a ++ b) ↔
      (IsContinued c.toList →
        parse what (a ++ b) =
          parseLines what (logicalLines a.toList ++ (logicalLines b.toList).tail))) ∧
    ∀ (file : Requirements) (l : List Char) (r : Requirement), IsContinued c.toList →
      parse what (a ++ b) = .ok file → (logicalLines b.toList).head? = some l →
      line what l = .ok (.requirement r) →
      ∃ before after, file.requirements = before ++ r :: after ∧
        parse what (a ++ c ++ "\n" ++ b) = .ok { file with requirements := before ++ after } := by
  have hab : parse what (a ++ b) =
      parseLines what (logicalLines a.toList ++ logicalLines b.toList) := by
    rw [parse_eq_parseLines, String.toList_append, logicalLines_append ha]
  rw [parse_comment what ha hc b]
  constructor
  · by_cases h : IsContinued c.toList
    · simp only [h, if_true, List.drop_one, forall_const]
      exact eq_comm
    · simp [h, hab]
  · intro file l r h hfile hhead hl
    obtain ⟨ms, hb⟩ : ∃ ms, logicalLines b.toList = l :: ms := by
      cases hb : logicalLines b.toList with
      | nil => rw [hb] at hhead; cases hhead
      | cons m ms => rw [hb] at hhead; cases hhead; exact ⟨ms, rfl⟩
    rw [hab, hb] at hfile
    simp only [h, if_true, hb, List.drop_one, List.tail_cons]
    exact parseLines_drop hl hfile

/-- A note that is continued, between two requirements. -/
theorem parse_comment_line_note :
    EndsWhole "b==2\n".toList ∧ IsCommentLine " # note \\\r".toList ∧
    IsContinued " # note \\\r".toList ∧
      ∃ before after, [⟨"b", [], none, [], .version "2"⟩, ⟨"a", [], none, [], .version "1"⟩] =
          before ++ ⟨"a", [], none, [], .version "1"⟩ :: after ∧
        parse "r" ("b==2\n" ++ " # note \\\r" ++ "\n" ++ "a==1\n") =
          .ok ⟨none, false, before ++ after⟩ := by
  have ha : EndsWhole "b==2\n".toList := by decide
  have hc : IsCommentLine " # note \\\r".toList := ⟨by decide, by decide⟩
  have hk : IsContinued " # note \\\r".toList := by decide
  exact ⟨ha, hc, hk, (parse_comment_line "r" ha hc "a==1\n").2 ⟨none, false, _⟩ "a==1".toList _ hk
    rfl rfl rfl⟩

/-- A requirement that is lost to the comment above it. -/
theorem continued_comment_takes_requirement :
    EndsWhole "".toList ∧ IsCommentLine "# note \\".toList ∧
      parse "requirements.txt" ("" ++ "a==1\n") =
        .ok ⟨none, false, [⟨"a", [], none, [], .version "1"⟩]⟩ ∧
      parse "requirements.txt" ("" ++ "# note \\" ++ "\n" ++ "a==1\n") = .ok ⟨none, false, []⟩ ∧
      parse "requirements.txt" ("" ++ "# note \\" ++ "\n" ++ "a==1\n") ≠
        parse "requirements.txt" ("" ++ "a==1\n") := by
  have hwith : parse "requirements.txt" ("" ++ "# note \\" ++ "\n" ++ "a==1\n") =
      .ok ⟨none, false, []⟩ := by
    rfl
  have hwithout : parse "requirements.txt" ("" ++ "a==1\n") =
      .ok ⟨none, false, [⟨"a", [], none, [], .version "1"⟩]⟩ := by
    rfl
  refine ⟨by decide, ⟨by decide, by decide⟩, hwithout, hwith, ?_⟩
  rw [hwith, hwithout]
  simp

end FetchPlan.Requirements
