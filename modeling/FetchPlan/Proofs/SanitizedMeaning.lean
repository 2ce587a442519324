import FetchPlan.Proofs.SanitizedText
import Mathlib.Data.List.Basic

/-!
What the sanitizer's output means. `allowedDocument` says which part of a document a policy
allows, with the document's own nodes; the output is read as exactly that part
(`parse?_sanitized`), and what is kept of that part is what was kept of the whole
(`keptEntries_allowedDocument`), so sanitizing again changes nothing.

What is proved: for every policy that is clear and every text that is accepted, what the output
means (`parse?_of_sanitize`); and for cargo's policy that sanitizing again changes nothing
(`sanitize_cargoPolicy_fixed`). A policy is clear when no section and no field is named twice and
the required field is one that stays.
-/
namespace FetchPlan.Sanitize

open Toml

/-! ## The allowed part of a document -/

def FieldKind.allows : FieldKind → Node → Bool
  | _, .scalar (.string _) => true
  | .stringOrList, .array items => items.all fun n => n.string?.isSome
  | _, _ => false

/-- The allowed fields of an entry, in the order of the policy. -/
def allowedFields (s : SectionPolicy) (entry : Entries) : Entries :=
  s.fields.filterMap fun f => ((entry.lookup f.name).filter f.kind.allows).map fun n => (f.name, n)

/-- The allowed part of an entry: of a table with the required string. -/
def allowedEntry (s : SectionPolicy) (n : Node) : Option Node := do
  let entry ← n.entries?
  let _ ← entry.string? s.required
  pure (.table .header (allowedFields s entry))

/-- The allowed entries of a section, in the order of the document. -/
def allowedEntries (s : SectionPolicy) (es : Entries) : Entries :=
  es.filterMap fun (name, n) => (allowedEntry s n).map fun m => (name, m)

/-- The part of a document that a policy allows: a table for each section that has an allowed
entry. -/
def allowedDocument (policy : Policy) (root : Entries) : Entries :=
  policy.sections.flatMap fun s =>
    sectionTable s.name (allowedEntries s ((root.table? s.name).getD []))

/-- A policy that says clearly what it allows: no section and no field of a section is named twice,
the required field is among those that stay, and sections need no quotes. -/
structure Policy.Clear (policy : Policy) : Prop where
  bare : ∀ s ∈ policy.sections, IsBareName s.name
  sections : (policy.sections.map SectionPolicy.name).Nodup
  fields : ∀ s ∈ policy.sections, (s.fields.map FieldPolicy.name).Nodup
  required : ∀ s ∈ policy.sections, s.required ∈ s.fields.map FieldPolicy.name

theorem cargoPolicy_clear : cargoPolicy.Clear := by
  refine ⟨fun s hs => ?_, by decide, by decide, by decide⟩
  obtain rfl := List.mem_singleton.1 hs
  have hbare : "registries".toList.all Quoted.isBare = true := by decide
  exact ⟨by decide, List.all_eq_true.1 hbare⟩

/-! ## What is kept is what is allowed -/

theorem mapM_string? :
    ∀ items : List Node, (items.mapM Node.string?).map (·.map fun s => Node.scalar (.string s)) =
    if items.all fun n => n.string?.isSome then some items else none
  | [] => rfl
  | n :: items => by
    have ih := mapM_string? items
    rw [List.mapM_cons]
    cases hn : n.string? with
    | none => simp [hn]
    | some s =>
      obtain rfl : n = .scalar (.string s) := by
        unfold Node.string? at hn
        split at hn <;> simp_all
      cases hm : items.mapM Node.string? with
      | none => simp_all
      | some ss => simp_all

theorem keptValue_node (kind : FieldKind) (n : Node) :
    (keptValue kind n).map Kept.node = if kind.allows n then some n else none := by
  cases n with
  | scalar s => cases s <;> cases kind <;> rfl
  | array items =>
    cases kind with
    | string => rfl
    | stringOrList =>
      show ((items.mapM Node.string?).map Kept.list).map Kept.node = _
      rw [Option.map_map]
      show (items.mapM Node.string?).map
        (Node.array ∘ fun ss => ss.map fun s => .scalar (.string s)) = _
      rw [← Option.map_map, mapM_string?]
      show _ = if (items.all fun n => n.string?.isSome) = true
        then some (Node.array items) else none
      split <;> rfl
  | table form es => cases kind <;> rfl
  | tables rows => cases kind <;> rfl

theorem bind_keptValue_node (kind : FieldKind) (n? : Option Node) :
    (n?.bind (keptValue kind)).map Kept.node = n?.filter kind.allows := by
  cases n? with
  | none => rfl
  | some n => rw [Option.bind_some, keptValue_node, Option.filter_some]

theorem bind_keptValue_filter (kind : FieldKind) (n? : Option Node) :
    (n?.filter kind.allows).bind (keptValue kind) = n?.bind (keptValue kind) := by
  cases n? with
  | none => rfl
  | some n =>
    rw [Option.filter_some]
    split
    · rfl
    · next h =>
      have hnode := keptValue_node kind n
      rw [if_neg h] at hnode
      exact (Option.map_eq_none_iff.1 hnode).symm

theorem keptFields_node (s : SectionPolicy) (entry : Entries) :
    ((s.fields.filterMap fun f =>
      ((entry.lookup f.name).bind (keptValue f.kind)).map fun v => (f.name, v)).map
      fun (name, v) => (name, v.node)) = allowedFields s entry := by
  rw [List.map_filterMap]
  refine List.filterMap_congr fun f _ => ?_
  rw [← bind_keptValue_node, Option.map_map, Option.map_map]
  rfl

theorem keptEntry_node (s : SectionPolicy) (name : String) (n : Node) :
    (keptEntry s name n).map KeptEntry.node = allowedEntry s n := by
  unfold keptEntry allowedEntry
  cases n.entries? with
  | none => rfl
  | some entry =>
    simp only [Option.bind_eq_bind, Option.bind_some]
    cases entry.string? s.required with
    | none => rfl
    | some _ => exact congrArg (fun fs => some (Node.table .header fs)) (keptFields_node s entry)

theorem keptEntry_names {s : SectionPolicy} {name : String} {n : Node} {e : KeptEntry}
    (h : keptEntry s name n = some e) :
    e.sectionName = s.name ∧ e.name = name ∧ ∃ entry : Entries,
    e.fields = s.fields.filterMap fun f =>
      ((entry.lookup f.name).bind (keptValue f.kind)).map fun v => (f.name, v) := by
  unfold keptEntry at h
  obtain ⟨entry, -, h⟩ := Option.bind_eq_some_iff.1 h
  obtain ⟨_, -, h⟩ := Option.bind_eq_some_iff.1 h
  obtain rfl := Option.some.inj h
  exact ⟨rfl, rfl, entry, rfl⟩

/-- Names that a selection takes over come in their order, each at most as often as before. -/
theorem names_sublist {α β γ : Type} {f : α → Option β} {g : β → γ} {h : α → γ}
    (hf : ∀ a b, f a = some b → g b = h a) : ∀ l : List α, ((l.filterMap f).map g).Sublist (l.map h)
  | [] => List.Sublist.slnil
  | a :: l => by
    have ih := names_sublist hf l
    cases ha : f a with
    | none =>
      rw [List.filterMap_cons_none ha]
      exact ih.cons _
    | some b =>
      rw [List.filterMap_cons_some ha, List.map_cons, List.map_cons, hf a b ha]
      exact ih.cons_cons _

def keptOf (root : Entries) (s : SectionPolicy) : List KeptEntry :=
  ((root.table? s.name).getD []).filterMap fun (name, n) => keptEntry s name n

theorem keptEntries_eq (policy : Policy) (root : Entries) :
    keptEntries policy root = policy.sections.flatMap (keptOf root) := rfl

theorem entryNodes_keptOf (root : Entries) (s : SectionPolicy) :
    entryNodes (keptOf root s) = allowedEntries s ((root.table? s.name).getD []) := by
  unfold entryNodes keptOf allowedEntries
  rw [List.map_filterMap]
  refine List.filterMap_congr fun (name, n) _ => ?_
  have h := keptEntry_node s name n
  cases he : keptEntry s name n with
  | none => simp [← h, he]
  | some e => simp [← h, he, (keptEntry_names he).2.1]

theorem distinct_table {root : Entries} (h : root.Distinct) (name : String) :
    (((root.table? name).getD []).map Prod.fst).Nodup := by
  unfold Entries.table?
  cases hl : root.lookup name with
  | none => exact List.nodup_nil
  | some n =>
    cases n with
    | table form es => exact (Entries.distinct_of_table (h.lookup hl)).keys
    | scalar _ | array _ | tables _ => exact List.nodup_nil

theorem fits_keptOf {policy : Policy} (hp : policy.Clear) {root : Entries} (h : root.Distinct)
    {s : SectionPolicy} (hs : s ∈ policy.sections) : Fits s.name (keptOf root s) := by
  refine ⟨fun e he => ?_, fun e he => ?_, ?_⟩
  · obtain ⟨_, -, he⟩ := List.mem_filterMap.1 he
    exact (keptEntry_names he).1
  · obtain ⟨_, -, he⟩ := List.mem_filterMap.1 he
    obtain ⟨-, -, entry, hf⟩ := keptEntry_names he
    rw [hf]
    refine (hp.fields s hs).sublist (names_sublist (fun f v hv => ?_) _)
    obtain ⟨_, -, rfl⟩ := Option.map_eq_some_iff.1 hv
    rfl
  · refine (distinct_table h s.name).sublist (names_sublist (fun f e he => ?_) _)
    exact (keptEntry_names he).2.1

/-- What is kept of a document is written as the part of it that is allowed. -/
theorem parse?_sanitized {policy : Policy} (hp : policy.Clear) {root : Entries}
    (h : root.Distinct) :
    Toml.parse? (render (keptEntries policy root)) = some (allowedDocument policy root) := by
  rw [keptEntries_eq, parse?_render hp.bare (fun s hs => fits_keptOf hp h hs) hp.sections]
  unfold allowedDocument
  simp only [entryNodes_keptOf]

theorem sanitize_eq {policy : Policy} {text out : String} (h : sanitize policy text = .ok out) :
    ∃ root, Toml.parse? text = some root ∧ render (keptEntries policy root) = out := by
  unfold sanitize Manifest.document at h
  cases hroot : Toml.parse? text with
  | none => rw [hroot] at h; cases h
  | some root =>
    rw [hroot] at h
    exact ⟨root, rfl, Except.ok.inj h⟩

/-! ## Sanitizing once more -/

theorem lookup_sectionTable (name : String) (es : Entries) :
    (((sectionTable name es).lookup name).bind Node.entries?).getD [] = es := by
  unfold sectionTable
  split
  · next h => exact h.symm
  · simp [Node.entries?]

theorem table?_sectionTables (es : SectionPolicy → Entries) : ∀ {ss : List SectionPolicy},
    (ss.map SectionPolicy.name).Nodup → ∀ s ∈ ss,
    ((Entries.table? (ss.flatMap fun s => sectionTable s.name (es s)) s.name).getD []) = es s
  | t :: ss, hn, s, hs => by
    obtain ⟨hnot, hn⟩ := List.nodup_cons.1 hn
    have hkeys : ∀ k ∈ (ss.flatMap fun s => sectionTable s.name (es s)).map Prod.fst,
        k ∈ ss.map SectionPolicy.name := by
      intro k hk
      obtain ⟨e, he, rfl⟩ := List.mem_map.1 hk
      obtain ⟨u, hu, he⟩ := List.mem_flatMap.1 he
      rw [keys_sectionTable u.name (es u) e.1 (List.mem_map_of_mem he)]
      exact List.mem_map_of_mem hu
    unfold Entries.table?
    rw [List.flatMap_cons, List.lookup_append]
    -- a section without entries has no table, and then no other section answers for it
    rcases List.mem_cons.1 hs with rfl | hs
    · rw [Entries.lookup_none_iff.2 fun hm => hnot (hkeys _ hm), Option.or_none]
      exact lookup_sectionTable s.name (es s)
    · have hne : s.name ∉ (sectionTable t.name (es t)).map Prod.fst := fun hm =>
        hnot (keys_sectionTable _ _ _ hm ▸ List.mem_map_of_mem hs)
      rw [Entries.lookup_none_iff.2 hne, Option.none_or]
      exact table?_sectionTables es hn s hs

theorem lookup_fields (value : FieldPolicy → Option Node) : ∀ {fs : List FieldPolicy},
    (fs.map FieldPolicy.name).Nodup → ∀ f ∈ fs,
    (fs.filterMap fun f => (value f).map fun n => (f.name, n)).lookup f.name = value f
  | g :: fs, hn, f, hf => by
    obtain ⟨hnot, hn⟩ := List.nodup_cons.1 hn
    have hsub : ((fs.filterMap fun f => (value f).map fun n => (f.name, n)).map Prod.fst).Sublist
        (fs.map FieldPolicy.name) := by
      refine names_sublist (fun f e he => ?_) fs
      obtain ⟨_, -, rfl⟩ := Option.map_eq_some_iff.1 he
      rfl
    rcases List.mem_cons.1 hf with rfl | hf
    · cases hv : value f with
      | none =>
        rw [List.filterMap_cons_none (by rw [hv]; rfl)]
        exact Entries.lookup_none_iff.2 fun hm => hnot (hsub.subset hm)
      | some n =>
        rw [List.filterMap_cons_some (by rw [hv]; rfl)]
        simp
    · have ih := lookup_fields value hn f hf
      have hne : f.name ≠ g.name := fun h => hnot (h ▸ List.mem_map_of_mem hf)
      cases hv : value g with
      | none =>
        rw [List.filterMap_cons_none (by rw [hv]; rfl)]
        exact ih
      | some n =>
        have hb : (f.name == g.name) = false := by simpa using hne
        rw [List.filterMap_cons_some (by rw [hv]; rfl), List.lookup_cons, hb]
        exact ih

theorem string?_allowedFields {s : SectionPolicy} (hn : (s.fields.map FieldPolicy.name).Nodup)
    (hr : s.required ∈ s.fields.map FieldPolicy.name) {entry : Entries} {t : String}
    (h : entry.string? s.required = some t) :
    (allowedFields s entry).string? s.required = some t := by
  obtain ⟨f, hf, hname⟩ := List.mem_map.1 hr
  obtain ⟨n, hl, ht⟩ := Option.bind_eq_some_iff.1 h
  have hallows : f.kind.allows n = true := by
    unfold Node.string? at ht
    split at ht
    · cases f.kind <;> rfl
    · cases ht
  have hfound := lookup_fields (fun f => (entry.lookup f.name).filter f.kind.allows) hn f hf
  rw [hname, hl, Option.filter_some, if_pos hallows] at hfound
  unfold Entries.string? allowedFields
  rw [hfound]
  exact ht

theorem keptEntry_allowedEntry {s : SectionPolicy} (hn : (s.fields.map FieldPolicy.name).Nodup)
    (hr : s.required ∈ s.fields.map FieldPolicy.name) (name : String) (n : Node) :
    (allowedEntry s n).bind (keptEntry s name) = keptEntry s name n := by
  unfold allowedEntry keptEntry
  cases n.entries? with
  | none => rfl
  | some entry =>
    simp only [Option.bind_eq_bind, Option.bind_some]
    cases ht : entry.string? s.required with
    | none => rfl
    | some t =>
      -- the required string is among the fields that stay, so the entry is kept again
      have hagain := string?_allowedFields hn hr ht
      have hfields : (s.fields.filterMap fun f => (((allowedFields s entry).lookup f.name).bind
            (keptValue f.kind)).map fun v => (f.name, v)) =
          s.fields.filterMap fun f =>
            ((entry.lookup f.name).bind (keptValue f.kind)).map fun v => (f.name, v) := by
        refine List.filterMap_congr fun f hf => ?_
        rw [allowedFields, lookup_fields _ hn f hf, bind_keptValue_filter]
      simp only [Option.bind_some, Option.pure_def, Node.entries?, hagain, hfields]

/-- What is kept of the allowed part of a document is what was kept of the document. -/
theorem keptEntries_allowedDocument {policy : Policy} (hp : policy.Clear) (root : Entries) :
    keptEntries policy (allowedDocument policy root) = keptEntries policy root := by
  rw [keptEntries_eq, keptEntries_eq]
  unfold List.flatMap
  refine congrArg List.flatten (List.map_congr_left fun s hs => ?_)
  unfold keptOf allowedDocument
  rw [table?_sectionTables (fun s => allowedEntries s ((root.table? s.name).getD []))
    hp.sections s hs]
  unfold allowedEntries
  rw [List.filterMap_filterMap]
  refine List.filterMap_congr fun (name, n) _ => ?_
  show ((allowedEntry s n).map fun m => (name, m)).bind (fun (name, n) => keptEntry s name n) = _
  rw [Option.bind_map]
  exact keptEntry_allowedEntry (hp.fields s hs) (hp.required s hs) name n

theorem sanitize_again {policy : Policy} (hp : policy.Clear) {text out : String}
    (h : sanitize policy text = .ok out) : sanitize policy out = .ok out := by
  obtain ⟨root, hroot, rfl⟩ := sanitize_eq h
  have hparse := parse?_sanitized hp (parse?_distinct hroot)
  unfold sanitize Manifest.document
  rw [hparse]
  exact congrArg (fun es => Except.ok (render es)) (keptEntries_allowedDocument hp root)

/-! ## What the sanitizer promises -/

/-- The output is a document that holds the allowed part of the input and nothing else. -/
theorem parse?_of_sanitize {policy : Policy} (hp : policy.Clear) {text out : String}
    (h : sanitize policy text = .ok out) :
    ∃ root, Toml.parse? text = some root ∧
      Toml.parse? out = some (allowedDocument policy root) := by
  obtain ⟨root, hroot, rfl⟩ := sanitize_eq h
  exact ⟨root, hroot, parse?_sanitized hp (parse?_distinct hroot)⟩

/-- A registry whose name and strings hold brackets and quotes. -/
def registryText : String :=
  "[registries]\n\"a]\" = \x7b index = 'x\"', extra = '', credential-provider = ['c'] \x7d\n"

def registryOutput : String := "[registries.\"a]\"]\nindex = 'x\"'\ncredential-provider = [\"c\"]\n"

theorem sanitize_registryText : sanitize cargoPolicy registryText = .ok registryOutput := by
  decide +kernel

theorem parse?_of_sanitize_registryText : cargoPolicy.Clear ∧
    sanitize cargoPolicy registryText = .ok registryOutput ∧
    ∃ root, Toml.parse? registryText = some root ∧
      Toml.parse? registryOutput = some (allowedDocument cargoPolicy root) :=
  ⟨cargoPolicy_clear, sanitize_registryText,
    parse?_of_sanitize cargoPolicy_clear sanitize_registryText⟩

/-- A sanitized configuration of cargo is sanitized to itself. -/
theorem sanitize_cargoPolicy_fixed {text out : String} (h : sanitize cargoPolicy text = .ok out) :
    sanitize cargoPolicy out = .ok out :=
  sanitize_again cargoPolicy_clear h

theorem sanitize_registryOutput : sanitize cargoPolicy registryText = .ok registryOutput ∧
    sanitize cargoPolicy registryOutput = .ok registryOutput :=
  ⟨sanitize_registryText, sanitize_cargoPolicy_fixed sanitize_registryText⟩

end FetchPlan.Sanitize
