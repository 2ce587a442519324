import FetchPlan.Toml.Document

/-!
No table of a document holds a key twice (`parse?_distinct`), whether it came about by a header,
by dotted keys or by braces. Setting a key keeps this (`assign?_distinct`), and so does putting a
section into its place (`place?_distinct`).
-/
namespace FetchPlan.Toml

/-- A node of which each table holds each of its keys once. -/
inductive Node.Distinct : Node → Prop
  | scalar (s : Scalar) : Distinct (.scalar s)
  | array {items : List Node} : (∀ n ∈ items, Distinct n) → Distinct (.array items)
  | table {form : Form} {es : Entries} : (es.map Prod.fst).Nodup → (∀ e ∈ es, Distinct e.2) →
      Distinct (.table form es)
  | tables {rows : List Entries} : (∀ row ∈ rows, (row.map Prod.fst).Nodup) →
      (∀ row ∈ rows, ∀ e ∈ row, Distinct e.2) → Distinct (.tables rows)

namespace Entries

/-- Entries of which no two have one key, and whose tables are so too. -/
structure Distinct (es : Entries) : Prop where
  keys : (es.map Prod.fst).Nodup
  nodes : ∀ e ∈ es, e.2.Distinct

theorem distinct_nil : Distinct [] := ⟨List.nodup_nil, by simp⟩

theorem distinct_of_table {form : Form} {es : Entries} (h : Node.Distinct (.table form es)) :
    es.Distinct := by
  cases h with
  | table hk hn => exact ⟨hk, hn⟩

theorem distinct_of_tables {rows : List Entries} {row : Entries} (h : Node.Distinct (.tables rows))
    (hr : row ∈ rows) : row.Distinct := by
  cases h with
  | tables hk hn => exact ⟨hk row hr, hn row hr⟩

theorem Distinct.table {es : Entries} (h : es.Distinct) (form : Form) :
    Node.Distinct (.table form es) :=
  .table h.keys h.nodes

theorem distinct_tables {rows : List Entries} (h : ∀ row ∈ rows, Distinct row) :
    Node.Distinct (.tables rows) :=
  .tables (fun row hr => (h row hr).keys) fun row hr => (h row hr).nodes

variable {es : Entries} {k : String}

theorem lookup_none_iff : es.lookup k = none ↔ k ∉ es.map Prod.fst := by
  rw [List.lookup_eq_none_iff]
  constructor
  · intro h hm
    obtain ⟨e, he, rfl⟩ := List.mem_map.1 hm
    simpa using h e he
  · intro h e he
    have hne : k ≠ e.1 := fun heq => h (heq ▸ List.mem_map_of_mem he)
    simpa using hne

theorem mem_of_lookup {n : Node} (h : es.lookup k = some n) : (k, n) ∈ es := by
  obtain ⟨_, _, h, _⟩ := List.lookup_eq_some_iff.1 h
  simp [h]

theorem Distinct.lookup (h : es.Distinct) {n : Node} (hl : es.lookup k = some n) : n.Distinct :=
  h.nodes _ (mem_of_lookup hl)

theorem Distinct.append (h : es.Distinct) (hk : k ∉ es.map Prod.fst) {n : Node} (hn : n.Distinct) :
    Distinct (es ++ [(k, n)]) := by
  refine ⟨?_, fun e he => ?_⟩
  · rw [List.map_append, List.nodup_append]
    refine ⟨h.keys, by simp, fun a ha b hb => ?_⟩
    rintro rfl
    obtain rfl := List.mem_singleton.1 hb
    exact hk ha
  · rcases List.mem_append.1 he with he | he
    · exact h.nodes e he
    · obtain rfl := List.mem_singleton.1 he
      exact hn

theorem keys_replace (es : Entries) (k : String) (n : Node) :
    (es.replace k n).map Prod.fst = es.map Prod.fst := by
  unfold replace
  rw [List.map_map]
  refine List.map_congr_left fun e _ => ?_
  simp only [Function.comp]
  split <;> rfl

theorem Distinct.replace (h : es.Distinct) {n : Node} (hn : n.Distinct) :
    Distinct (es.replace k n) := by
  refine ⟨by rw [keys_replace]; exact h.keys, fun e he => ?_⟩
  obtain ⟨⟨l, m⟩, hm, rfl⟩ := List.mem_map.1 he
  simp only
  split
  · exact hn
  · exact h.nodes _ hm

theorem Distinct.without (h : es.Distinct) : Distinct (es.without k) :=
  ⟨h.keys.sublist (List.filter_sublist.map _), fun e he => h.nodes e (List.mem_filter.1 he).1⟩

theorem not_mem_without : k ∉ (es.without k).map Prod.fst := by
  intro hm
  obtain ⟨e, he, rfl⟩ := List.mem_map.1 hm
  simpa using (List.mem_filter.1 he).2

theorem Distinct.replaceRow (h : es.Distinct) {rows : List Entries} {row : Entries}
    (hl : es.lookup k = some (.tables rows)) (hr : row.Distinct) :
    Distinct (es.replace k (.tables (rows.dropLast ++ [row]))) := by
  refine h.replace (distinct_tables fun r hm => ?_)
  rcases List.mem_append.1 hm with hm | hm
  · exact distinct_of_tables (h.lookup hl) (List.dropLast_subset _ hm)
  · obtain rfl := List.mem_singleton.1 hm
    exact hr

/-! ## Setting keys -/

theorem assign?_distinct : ∀ {path : List String} {es es' : Entries} {n : Node},
    es.Distinct → n.Distinct →
    es.assign? path n = some es' → es'.Distinct
  | [k], es, es', n, h, hn, ha => by
    unfold assign? at ha
    split at ha
    · cases ha
    · next hk =>
      obtain rfl := Option.some.inj ha
      exact h.append (lookup_none_iff.1 (Option.not_isSome_iff_eq_none.1 hk)) hn
  | k :: l :: rest, es, es', n, h, hn, ha => by
    -- what lies below the first key is a table of its own, which is added or exchanged whole
    rw [assign?] at ha
    split at ha
    · next hk =>
      obtain ⟨sub, hsub, rfl⟩ := Option.map_eq_some_iff.1 ha
      exact h.append (lookup_none_iff.1 hk) ((assign?_distinct distinct_nil hn hsub).table _)
    · next form sub hk =>
      split at ha
      · obtain ⟨sub', hsub, rfl⟩ := Option.map_eq_some_iff.1 ha
        exact h.replace ((assign?_distinct (distinct_of_table (h.lookup hk)) hn hsub).table _)
      · cases ha
    · next rows hk =>
      split at ha
      · next row hrow =>
        split at ha
        · cases ha
        · obtain ⟨row', hrow', rfl⟩ := Option.map_eq_some_iff.1 ha
          have hd := distinct_of_tables (h.lookup hk) (List.mem_of_getLast? hrow)
          exact h.replaceRow hk (assign?_distinct hd hn hrow')
      · cases ha
    · cases ha

end Entries

mutual

theorem Node.ofExpr?_distinct : ∀ {e : Expr} {n : Node}, Node.ofExpr? e = some n → n.Distinct
  | .scalar s, n, h => by
    obtain rfl := Option.some.inj h
    exact .scalar s
  | .array items, n, h => by
    rw [ofExpr?] at h
    obtain ⟨ns, hns, rfl⟩ := Option.map_eq_some_iff.1 h
    exact .array (Node.ofItems?_distinct hns)
  | .inlineTable entries, n, h => by
    rw [ofExpr?] at h
    obtain ⟨es, hes, rfl⟩ := Option.map_eq_some_iff.1 h
    exact (Node.ofEntries?_distinct Entries.distinct_nil hes).table _

theorem Node.ofItems?_distinct : ∀ {items : List Expr} {ns : List Node},
    Node.ofItems? items = some ns →
    ∀ n ∈ ns, n.Distinct
  | [], ns, h => by
    obtain rfl := Option.some.inj h
    simp
  | e :: r, ns, h => by
    simp only [ofItems?, Option.bind_eq_bind, Option.bind_eq_some_iff, Option.pure_def,
      Option.some.injEq] at h
    obtain ⟨n, hn, ms, hms, rfl⟩ := h
    intro m hm
    rcases List.mem_cons.1 hm with rfl | hm
    · exact Node.ofExpr?_distinct hn
    · exact Node.ofItems?_distinct hms m hm

theorem Node.ofEntries?_distinct :
    ∀ {entries : List (List String × Expr)} {es es' : Entries}, es.Distinct →
    Node.ofEntries? es entries = some es' → es'.Distinct
  | [], es, es', h, ho => by
    obtain rfl := Option.some.inj ho
    exact h
  | (path, e) :: r, es, es', h, ho => by
    simp only [ofEntries?, Option.bind_eq_bind, Option.bind_eq_some_iff] at ho
    obtain ⟨n, hn, es₁, hes, ho⟩ := ho
    exact Node.ofEntries?_distinct (Entries.assign?_distinct h (Node.ofExpr?_distinct hn) hes) ho

end

/-! ## Sections in their places -/

theorem Entries.place?_distinct {isRow : Bool} {body : List (List String × Expr)} :
    ∀ {path : List String} {es es' : Entries},
    es.Distinct → es.place? isRow body path = some es' → es'.Distinct
  | [k], es, es', h, hp => by
    rw [place?] at hp
    split at hp
    · split at hp
      · next hk =>
        obtain ⟨row, hrow, rfl⟩ := Option.map_eq_some_iff.1 hp
        have hd := Node.ofEntries?_distinct distinct_nil hrow
        exact h.append (lookup_none_iff.1 hk) (distinct_tables (by simpa using hd))
      · next rows hk =>
        obtain ⟨row, hrow, rfl⟩ := Option.map_eq_some_iff.1 hp
        refine h.replace (distinct_tables fun r hr => ?_)
        rcases List.mem_append.1 hr with hr | hr
        · exact distinct_of_tables (h.lookup hk) hr
        · obtain rfl := List.mem_singleton.1 hr
          exact Node.ofEntries?_distinct distinct_nil hrow
      · cases hp
    · split at hp
      · next hk =>
        obtain ⟨sub, hsub, rfl⟩ := Option.map_eq_some_iff.1 hp
        exact h.append (lookup_none_iff.1 hk) ((Node.ofEntries?_distinct distinct_nil hsub).table _)
      · next sub hk =>
        -- the table moves to the end, so its key is free again
        obtain ⟨sub', hsub, rfl⟩ := Option.map_eq_some_iff.1 hp
        have hd := Node.ofEntries?_distinct (distinct_of_table (h.lookup hk)) hsub
        exact h.without.append not_mem_without (hd.table _)
      · cases hp
  | k :: l :: rest, es, es', h, hp => by
    rw [place?] at hp
    split at hp
    · next hk =>
      obtain ⟨sub, hsub, rfl⟩ := Option.map_eq_some_iff.1 hp
      exact h.append (lookup_none_iff.1 hk) ((place?_distinct distinct_nil hsub).table _)
    · next form sub hk =>
      split at hp
      · cases hp
      · obtain ⟨sub', hsub, rfl⟩ := Option.map_eq_some_iff.1 hp
        exact h.replace ((place?_distinct (distinct_of_table (h.lookup hk)) hsub).table _)
    · next rows hk =>
      split at hp
      · next row hrow =>
        obtain ⟨row', hrow', rfl⟩ := Option.map_eq_some_iff.1 hp
        have hd := distinct_of_tables (h.lookup hk) (List.mem_of_getLast? hrow)
        exact h.replaceRow hk (place?_distinct hd hrow')
      · cases hp
    · cases hp

theorem foldlM_place?_distinct : ∀ {ss : List Section} {root root' : Entries}, root.Distinct →
    ss.foldlM (fun root s => root.place? s.isRow s.body s.path) root = some root' → root'.Distinct
  | [], root, root', h, hf => by
    obtain rfl := Option.some.inj hf
    exact h
  | s :: ss, root, root', h, hf => by
    rw [List.foldlM_cons] at hf
    obtain ⟨root₁, hplace, hf⟩ := Option.bind_eq_some_iff.1 hf
    exact foldlM_place?_distinct (Entries.place?_distinct h hplace) hf

/-- No table of a document holds a key twice. -/
theorem parse?_distinct {text : String} {root : Entries} (h : parse? text = some root) :
    root.Distinct := by
  obtain ⟨statements, -, h⟩ := Option.bind_eq_some_iff.1 h
  unfold ofStatements? at h
  obtain ⟨first, hfirst, h⟩ := Option.bind_eq_some_iff.1 h
  exact foldlM_place?_distinct (Node.ofEntries?_distinct Entries.distinct_nil hfirst) h

end FetchPlan.Toml
