import FetchPlan.Proofs.DocumentKeys
import FetchPlan.Proofs.StatementReading
import FetchPlan.Sanitize

/-!
The text of kept entries is read as exactly those entries. Its lines denote one header for each
entry and one key for each of its fields (`ofText?_render`); put together, the entries of each
section follow each other in one table, and the sections follow each other in the document
(`parse?_render`).
-/
namespace FetchPlan.Sanitize

open Toml Toml.Statement

/-! ## Lines -/

namespace Kept

def expr : Kept → Expr
  | .string s => .scalar (.string s)
  | .list items => .array (items.map fun s => .scalar (.string s))

def node : Kept → Node
  | .string s => .scalar (.string s)
  | .list items => .array (items.map fun s => .scalar (.string s))

theorem writes : ∀ v : Kept, Writes v.render v.expr
  | .string s => by simpa [render, expr] using writes_value s.toList
  | .list items => by
    simpa [render, expr, Function.comp_def] using writes_stringArray (items.map String.toList)

theorem ofItems?_strings : ∀ items : List String,
    Node.ofItems? (items.map fun s => .scalar (.string s)) =
      some (items.map fun s => .scalar (.string s))
  | [] => rfl
  | s :: items => by
    have ih := ofItems?_strings items
    simp [Node.ofItems?, Node.ofExpr?, ih]

theorem ofExpr?_expr : ∀ v : Kept, Node.ofExpr? v.expr = some v.node
  | .string _ => by rw [expr, Node.ofExpr?]; rfl
  | .list items => by rw [expr, Node.ofExpr?, ofItems?_strings]; rfl

end Kept

/-- A name that needs no quotes as a key. -/
structure IsBareName (name : String) : Prop where
  notEmpty : name.toList ≠ []
  bare : ∀ c ∈ name.toList, Quoted.isBare c = true

def KeptEntry.statements (e : KeptEntry) : List Statement :=
  .header [e.sectionName, e.name] :: e.fields.map fun (name, v) => .assign [name] v.expr

theorem denotes_fields {r : List Char} {sts : List Statement} (h : Denotes r sts) :
    ∀ fields : List (String × Kept), Denotes (fields.flatMap (fun (name, v) =>
        Quoted.key name.toList ++ " = ".toList ++ v.render ++ ['\n']) ++ r)
      (fields.map (fun (name, v) => .assign [name] v.expr) ++ sts)
  | [] => h
  | (name, v) :: fields => by
    have ih := (denotes_fields h fields).assign name.toList v.writes
    simpa using ih

theorem KeptEntry.denotes {e : KeptEntry} (he : IsBareName e.sectionName) {r : List Char}
    {sts : List Statement} (h : Denotes r sts) : Denotes (e.render ++ r) (e.statements ++ sts) := by
  have hfields := (denotes_fields h e.fields).header he.notEmpty he.bare e.name.toList
  simpa [KeptEntry.render, KeptEntry.statements] using hfields

theorem denotes_entries : ∀ es : List KeptEntry, (∀ e ∈ es, IsBareName e.sectionName) →
    Denotes (List.intercalate ['\n'] (es.map KeptEntry.render)) (es.flatMap KeptEntry.statements)
  | [], _ => denotes_nil
  | [e], h => by
    simpa using (KeptEntry.denotes (h e List.mem_cons_self) denotes_nil)
  | e :: e' :: es, h => by
    have ih := denotes_entries (e' :: es) fun x hx => h x (List.mem_cons_of_mem e hx)
    have hall := KeptEntry.denotes (h e List.mem_cons_self) ih.emptyLine
    rw [List.map_cons] at hall
    rw [List.map_cons, List.map_cons, List.intercalate_cons_cons, List.append_assoc,
      List.flatMap_cons]
    exact hall

theorem head?_entries : ∀ es : List KeptEntry,
    (List.intercalate ['\n'] (es.map KeptEntry.render)).head? = es.head?.map fun _ => '['
  | [] => rfl
  | [e] => by simp [KeptEntry.render]
  | e :: e' :: es => by simp [KeptEntry.render, List.intercalate_cons_cons]

/-- A text that entries were written as says their statements and no others. -/
theorem ofText?_render {es : List KeptEntry} (h : ∀ e ∈ es, IsBareName e.sectionName) :
    Statement.ofText? (render es).toList = some (es.flatMap KeptEntry.statements) := by
  have htext : (render es).toList = List.intercalate ['\n'] (es.map KeptEntry.render) := by
    simp [render]
  rw [htext]
  refine (denotes_entries es h).ofText? ?_
  rw [head?_entries]
  cases es <;> simp

/-! ## Sections -/

def KeptEntry.body (e : KeptEntry) :
    List (List String × Expr) := e.fields.map fun (name, v) => ([name], v.expr)

def KeptEntry.node (e : KeptEntry) :
    Node := .table .header (e.fields.map fun (name, v) => (name, v.node))

theorem sections_assigns (fields : List (String × Kept)) (sts : List Statement) :
    sections (fields.map (fun (name, v) => .assign [name] v.expr) ++ sts) =
      (fields.map (fun (name, v) => ([name], v.expr)) ++ (sections sts).1, (sections sts).2) := by
  induction fields with
  | nil => rfl
  | cons f fields ih =>
    simp only [List.map_cons, List.cons_append, sections, ih]

theorem sections_statements : ∀ es : List KeptEntry, sections (es.flatMap KeptEntry.statements) =
    ([], es.map fun e => ⟨false, [e.sectionName, e.name], e.body⟩)
  | [] => rfl
  | e :: es => by
    have ih := sections_statements es
    rw [List.flatMap_cons, KeptEntry.statements, List.cons_append, sections, sections_assigns, ih]
    simp [KeptEntry.body]

theorem ofEntries?_fields : ∀ (fields : List (String × Kept)) (es : Entries),
    (es.map Prod.fst ++ fields.map Prod.fst).Nodup →
    Node.ofEntries? es (fields.map fun (name, v) => ([name], v.expr)) =
      some (es ++ fields.map fun (name, v) => (name, v.node))
  | [], es, _ => by simp [Node.ofEntries?]
  | (name, v) :: fields, es, h => by
    have hname : es.lookup name = none := Entries.lookup_none_iff.2 fun hm =>
      (List.nodup_append.1 h).2.2 name hm name List.mem_cons_self rfl
    have ih := ofEntries?_fields fields (es ++ [(name, v.node)]) (by simpa using h)
    simp [Node.ofEntries?, Kept.ofExpr?_expr, Entries.assign?, hname, ih]

/-! ## The document -/

theorem lookup_concat {es : Entries} {k : String} (hk : k ∉ es.map Prod.fst) (n : Node) :
    (es ++ [(k, n)]).lookup k = some n := by
  simp [List.lookup_append, Entries.lookup_none_iff.2 hk]

theorem replace_concat {es : Entries} {k : String} (hk : k ∉ es.map Prod.fst) (m n : Node) :
    Entries.replace (es ++ [(k, m)]) k n = es ++ [(k, n)] := by
  have hsame : ∀ e ∈ es, (if e.1 = k then (e.1, n) else (e.1, e.2)) = e := by
    intro e he
    have hne : e.1 ≠ k := fun h => hk (h ▸ List.mem_map_of_mem he)
    simp [hne]
  simp only [Entries.replace, List.map_append, List.map_cons, List.map_nil, if_true]
  rw [List.map_congr_left hsame, List.map_id']

def placeEntry (root : Entries) (e : KeptEntry) : Option Entries :=
  root.place? false e.body [e.sectionName, e.name]

theorem placeEntry_first {root : Entries} {e : KeptEntry} (hf : (e.fields.map Prod.fst).Nodup)
    (hk : e.sectionName ∉ root.map Prod.fst) :
    placeEntry root e = some (root ++ [(e.sectionName, .table .implied [(e.name, e.node)])]) := by
  have hnone : root.lookup e.sectionName = none := Entries.lookup_none_iff.2 hk
  have hbody : Node.ofEntries? [] e.body = some (e.fields.map fun (name, v) => (name, v.node)) :=
    ofEntries?_fields e.fields [] hf
  simp [placeEntry, Entries.place?, hnone, hbody, KeptEntry.node]

theorem placeEntry_next {root sub : Entries} {e : KeptEntry} (hf : (e.fields.map Prod.fst).Nodup)
    (hk : e.sectionName ∉ root.map Prod.fst) (hn : e.name ∉ sub.map Prod.fst) :
    placeEntry (root ++ [(e.sectionName, .table .implied sub)]) e =
      some (root ++ [(e.sectionName, .table .implied (sub ++ [(e.name, e.node)]))]) := by
  have hnone : sub.lookup e.name = none := Entries.lookup_none_iff.2 hn
  have hbody : Node.ofEntries? [] e.body = some (e.fields.map fun (name, v) => (name, v.node)) :=
    ofEntries?_fields e.fields [] hf
  simp [placeEntry, Entries.place?, lookup_concat hk, replace_concat hk, hnone,
    hbody, KeptEntry.node]

/-- Entries of one section that may be written: of different names, each with fields of different
names. -/
structure Fits (name : String) (es : List KeptEntry) : Prop where
  sectionName : ∀ e ∈ es, e.sectionName = name
  fields : ∀ e ∈ es, (e.fields.map Prod.fst).Nodup
  names : (es.map KeptEntry.name).Nodup

def entryNodes (es : List KeptEntry) : Entries := es.map fun e => (e.name, e.node)

theorem foldlM_next {root : Entries} {name : String} (hk : name ∉ root.map Prod.fst) :
    ∀ (es : List KeptEntry) (sub : Entries), (∀ e ∈ es, e.sectionName = name) →
      (∀ e ∈ es, (e.fields.map Prod.fst).Nodup) →
      (sub.map Prod.fst ++ es.map KeptEntry.name).Nodup →
      es.foldlM placeEntry (root ++ [(name, .table .implied sub)]) =
        some (root ++ [(name, .table .implied (sub ++ entryNodes es))])
  | [], sub, _, _, _ => by simp [entryNodes]
  | e :: es, sub, hs, hf, hn => by
    -- the table of the section stays the last of the root, with one more entry in it
    obtain rfl := hs e List.mem_cons_self
    have hname : e.name ∉ sub.map Prod.fst := fun hm =>
      (List.nodup_append.1 hn).2.2 e.name hm e.name List.mem_cons_self rfl
    have ih := foldlM_next hk es (sub ++ [(e.name, e.node)])
      (fun x hx => hs x (List.mem_cons_of_mem e hx))
      (fun x hx => hf x (List.mem_cons_of_mem e hx)) (by simpa using hn)
    rw [List.foldlM_cons, placeEntry_next (hf e List.mem_cons_self) hk hname]
    show es.foldlM placeEntry _ = _
    rw [ih]
    simp [entryNodes]

def sectionTable (name : String) (es : Entries) : Entries :=
  if es = [] then [] else [(name, .table .implied es)]

theorem foldlM_section {root : Entries} {name : String} (hk : name ∉ root.map Prod.fst)
    {es : List KeptEntry} (h : Fits name es) :
    es.foldlM placeEntry root = some (root ++ sectionTable name (entryNodes es)) := by
  cases es with
  | nil => simp [sectionTable, entryNodes]
  | cons e es =>
    obtain ⟨hs, hf, hn⟩ := h
    obtain rfl := hs e List.mem_cons_self
    have hnext := foldlM_next hk es [(e.name, e.node)]
      (fun x hx => hs x (List.mem_cons_of_mem e hx))
      (fun x hx => hf x (List.mem_cons_of_mem e hx)) (by simpa using hn)
    rw [List.foldlM_cons, placeEntry_first (hf e List.mem_cons_self) hk]
    show es.foldlM placeEntry _ = _
    rw [hnext]
    simp [sectionTable, entryNodes]

theorem keys_sectionTable (name : String) (es : Entries) :
    ∀ k ∈ (sectionTable name es).map Prod.fst, k = name := by
  unfold sectionTable
  split <;> simp

/-- The sections of a policy follow each other. -/
theorem foldlM_sections {kept : SectionPolicy → List KeptEntry} :
    ∀ (ss : List SectionPolicy) (root : Entries),
    (∀ s ∈ ss, Fits s.name (kept s)) → (∀ s ∈ ss, s.name ∉ root.map Prod.fst) →
    (ss.map SectionPolicy.name).Nodup →
    (ss.flatMap kept).foldlM placeEntry root =
      some (root ++ ss.flatMap fun s => sectionTable s.name (entryNodes (kept s)))
  | [], root, _, _, _ => by simp
  | s :: ss, root, h, hroot, hn => by
    -- what the later sections find is that no table has their names yet
    obtain ⟨hnot, hn⟩ := List.nodup_cons.1 hn
    have hlater : ∀ t ∈ ss,
        t.name ∉ (root ++ sectionTable s.name (entryNodes (kept s))).map Prod.fst := by
      intro t ht hm
      rw [List.map_append] at hm
      rcases List.mem_append.1 hm with hm | hm
      · exact hroot t (List.mem_cons_of_mem s ht) hm
      · exact hnot (keys_sectionTable _ _ _ hm ▸ List.mem_map_of_mem ht)
    have ih := foldlM_sections ss (root ++ sectionTable s.name (entryNodes (kept s)))
      (fun t ht => h t (List.mem_cons_of_mem s ht)) hlater hn
    rw [List.flatMap_cons, List.foldlM_append,
      foldlM_section (hroot s List.mem_cons_self) (h s List.mem_cons_self)]
    show (ss.flatMap kept).foldlM placeEntry _ = _
    rw [ih, List.flatMap_cons, List.append_assoc]

theorem ofStatements?_entries (es : List KeptEntry) :
    ofStatements? (es.flatMap KeptEntry.statements) = es.foldlM placeEntry [] := by
  unfold ofStatements?
  rw [sections_statements]
  show (es.map fun e => (⟨false, [e.sectionName, e.name], e.body⟩ : Section)).foldlM _ [] = _
  rw [List.foldlM_map]
  rfl

/-- Kept entries are read as the document of their sections. -/
theorem parse?_render {kept : SectionPolicy → List KeptEntry} {ss : List SectionPolicy}
    (hbare : ∀ s ∈ ss, IsBareName s.name) (h : ∀ s ∈ ss, Fits s.name (kept s))
    (hn : (ss.map SectionPolicy.name).Nodup) :
    Toml.parse? (render (ss.flatMap kept)) =
      some (ss.flatMap fun s => sectionTable s.name (entryNodes (kept s))) := by
  have hb : ∀ e ∈ ss.flatMap kept, IsBareName e.sectionName := by
    intro e he
    obtain ⟨s, hs, he⟩ := List.mem_flatMap.1 he
    rw [(h s hs).sectionName e he]
    exact hbare s hs
  have hplace := foldlM_sections ss [] h (by simp) hn
  rw [Toml.parse?, ofText?_render hb]
  show ofStatements? _ = _
  rw [ofStatements?_entries, hplace, List.nil_append]

end FetchPlan.Sanitize
