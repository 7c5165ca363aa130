import TreeSieve.Yaml.Meaning

/-!
# Proofs — Yaml — Nodes

The trees and values of documents that hold mappings with plain keys, lists of scalars, and scalars.

The tokens of a part are read as its tree (`ReadsAs`) with fuel that is more than twice their number,
whatever follows; a tree means a value (`Means`) when it has no faults on any level.  A `Part` holds tokens,
tree and value together with the proofs that they belong to each other.

* `Part.scalar`, `Part.texts`, `Part.mapping`: the parts of such documents.
* `read_mapping`: a document of one mapping has the value of that mapping.
-/

namespace TreeSieve.Yaml

variable {fuel : Nat} {plain : Bool} {t : Text} {ts rest : List Token}
  {handles : List (Text × Text)}

/-! ### Reading -/

/-- A reading in which no anchor is known. -/
def reading (handles : List (Text × Text)) (ts : List Token) : Reading := { tokens := ts, handles }

/-- The tag of a scalar that has none of its own. -/
def scalarTag (plain : Bool) (t : Text) : Tag := if plain then .ofPlain t else .str

/-- A part of a mapping ends before what follows. -/
def EndsPart (rest : List Token) : Prop :=
  ∃ us, rest = .key :: us ∨ rest = .blockEnd :: us

/-- Tokens are read as a node in a mapping, if the part ends behind them. -/
structure ReadsAs (ts : List Token) (x : Node) : Prop where
  noEnd : ∃ t us, ts = t :: us ∧ t ∉ [Token.key, .value, .blockEnd]
  node_eq : ∀ handles rest fuel, EndsPart rest → 2 * ts.length < fuel →
    node fuel true true (reading handles (ts ++ rest)) = .ok (x, reading handles rest)

theorem node_scalar (block loose : Bool) :
    node (fuel + 1) block loose (reading handles (.scalar plain t :: ts)) =
      .ok (.scalar (scalarTag plain t) t, reading handles ts) := by
  cases plain <;> rfl

theorem readsAs_scalar (plain : Bool) (t : Text) :
    ReadsAs [.scalar plain t] (.scalar (scalarTag plain t) t) where
  noEnd := ⟨_, _, rfl, by simp⟩
  node_eq handles rest fuel _ hfuel := by
    obtain ⟨fuel, rfl⟩ : ∃ m, fuel = m + 1 := ⟨fuel - 1, by omega⟩
    exact node_scalar true true

/-- A node means a value, without faults on any level. -/
def Means (x : Node) (v : Value) : Prop := ∀ level, draft level x = ⟨v, []⟩

theorem means_text (t : Text) : Means (.scalar .str t) (.text t) := fun level => by
  rw [draft]
  rfl

/-- A part of a document: its tokens, the node that they are read as, and the value that it means. -/
structure Part where
  tokens : List Token
  node : Node
  value : Value
  readsAs : ReadsAs tokens node
  means : Means node value

/-- A scalar without a tag of its own. -/
def Part.scalar (plain : Bool) (t : Text) (v : Value) (htag : (scalarTag plain t).isCollection = false)
    (hv : scalarValue (scalarTag plain t) t = .ok v) : Part where
  tokens := [.scalar plain t]
  node := .scalar (scalarTag plain t) t
  value := v
  readsAs := readsAs_scalar plain t
  means level := by
    rw [draft, htag, hv]
    rfl

/-! ### Lists -/

theorem readsAs_emptyList :
    ReadsAs [.flowSequenceStart, .flowSequenceEnd] (.sequence .seq []) where
  noEnd := ⟨_, _, rfl, by simp⟩
  node_eq handles rest fuel _ hfuel := by
    obtain ⟨fuel, rfl⟩ : ∃ m, fuel = m + 2 := ⟨fuel - 2, by rw [List.length_cons] at hfuel; omega⟩
    rfl

/-- The tokens of a member of a list. -/
def memberTokens (item : Bool × Text) : List Token := [.blockEntry, .scalar item.1 item.2]

/-- The node of a member of a list. -/
def memberNode (item : Bool × Text) : Node := .scalar (scalarTag item.1 item.2) item.2

/-- The members of a list are read one by one. -/
theorem looseEntries_members (items : List (Bool × Text)) (hrest : EndsPart rest)
    (hfuel : items.length + 2 < fuel) :
    looseEntries fuel (reading handles (items.flatMap memberTokens ++ rest)) =
      .ok (items.map memberNode, reading handles rest) := by
  induction items generalizing fuel with
  | nil =>
    obtain ⟨fuel, rfl⟩ : ∃ m, fuel = m + 1 := ⟨fuel - 1, by omega⟩
    obtain ⟨us, rfl | rfl⟩ := hrest <;> rfl
  | cons item items ih =>
    rw [List.length_cons] at hfuel
    obtain ⟨fuel, rfl⟩ : ∃ m, fuel = m + 3 := ⟨fuel - 3, by omega⟩
    have hstep : looseEntries (fuel + 3)
        (reading handles ((item :: items).flatMap memberTokens ++ rest)) = (do
          let x ← node (fuel + 1) true false
            (reading handles (.scalar item.1 item.2 :: (items.flatMap memberTokens ++ rest)))
          let xs ← looseEntries (fuel + 2) x.2
          return (x.1 :: xs.1, xs.2)) := rfl
    have hitems := ih (by omega : items.length + 2 < fuel + 2)
    rw [hstep, node_scalar]
    simp only [bind, Except.bind, hitems]
    rfl

/-- A list with members is read by them. -/
theorem readsAs_members {items : List (Bool × Text)} (hne : items ≠ []) :
    ReadsAs (items.flatMap memberTokens) (.sequence .seq (items.map memberNode)) := by
  have hlen : (items.flatMap memberTokens).length = 2 * items.length := by
    clear hne
    induction items with
    | nil => rfl
    | cons item items ih =>
      rw [List.flatMap_cons, List.length_append, ih, List.length_cons, Nat.mul_succ, Nat.add_comm]
      rfl
  obtain ⟨item, items, rfl⟩ := List.exists_cons_of_ne_nil hne
  refine ⟨⟨_, _, rfl, by simp⟩, fun handles rest fuel hrest hfuel => ?_⟩
  rw [hlen, List.length_cons] at hfuel
  obtain ⟨fuel, rfl⟩ : ∃ m, fuel = m + 1 := ⟨fuel - 1, by omega⟩
  have hnode : node (fuel + 1) true true
      (reading handles ((item :: items).flatMap memberTokens ++ rest)) = (do
        let xs ← looseEntries fuel
          (reading handles ((item :: items).flatMap memberTokens ++ rest))
        .ok (.sequence .seq xs.1, xs.2)) := rfl
  rw [hnode, looseEntries_members _ hrest (by rw [List.length_cons]; omega)]
  rfl

theorem drafts_map {α : Type} {f : α → Node} {g : α → Value} {xs : List α}
    (h : ∀ a ∈ xs, Means (f a) (g a)) (level : Nat) : drafts level (xs.map f) = ⟨xs.map g, []⟩ := by
  induction xs with
  | nil => rw [List.map_nil, drafts, List.map_nil]
  | cons a xs ih =>
    obtain ⟨ha, hxs⟩ := List.forall_mem_cons.1 h
    rw [List.map_cons, drafts, ha level, ih hxs]
    rfl

/-- A list of texts, each in a way in which it stands for itself. -/
def Part.texts (items : List (Bool × Text)) (h : ∀ item ∈ items, scalarTag item.1 item.2 = .str) :
    Part where
  tokens := if items.isEmpty then [.flowSequenceStart, .flowSequenceEnd] else items.flatMap memberTokens
  node := .sequence .seq (items.map memberNode)
  value := .list (items.map fun item => .text item.2)
  readsAs := by
    cases items with
    | nil => exact readsAs_emptyList
    | cons item items => exact readsAs_members (List.cons_ne_nil _ _)
  means level := by
    rw [draft, drafts_map (g := fun item => .text item.2)]
    · rfl
    · intro item hitem level
      rw [memberNode, h item hitem]
      exact means_text item.2 level

/-! ### Mappings -/

/-- The tokens of an entry. -/
def entryTokens (e : Text × Part) : List Token := .key :: .scalar true e.1 :: .value :: e.2.tokens

/-- The nodes of an entry. -/
def entryNodes (e : Text × Part) : Node × Node := (.scalar (scalarTag true e.1) e.1, e.2.node)

/-- The values of an entry. -/
def entryValues (e : Text × Part) : Value × Value := (.text e.1, e.2.value)

theorem endsPart_entries (entries : List (Text × Part)) (rest : List Token) :
    EndsPart (entries.flatMap entryTokens ++ .blockEnd :: rest) := by
  cases entries with
  | nil => exact ⟨rest, .inr rfl⟩
  | cons e entries => exact ⟨_, .inl rfl⟩

/-- The entries of a mapping are read one by one. -/
theorem blockEntries_entries (entries : List (Text × Part)) (rest : List Token)
    (hfuel : 2 * (entries.flatMap entryTokens).length + 1 < fuel) :
    blockEntries fuel (reading handles (entries.flatMap entryTokens ++ .blockEnd :: rest)) =
      .ok (entries.map entryNodes, reading handles rest) := by
  induction entries generalizing fuel with
  | nil =>
    obtain ⟨fuel, rfl⟩ : ∃ m, fuel = m + 1 := ⟨fuel - 1, by omega⟩
    rfl
  | cons e entries ih =>
    obtain ⟨⟨t, us, htokens, hend⟩, hnode⟩ := e.2.readsAs
    simp only [List.flatMap_cons, List.length_append, entryTokens, List.length_cons] at hfuel
    obtain ⟨fuel, rfl⟩ : ∃ m, fuel = m + 3 := ⟨fuel - 3, by omega⟩
    have hstep : blockEntries (fuel + 3)
        (reading handles ((e :: entries).flatMap entryTokens ++ .blockEnd :: rest)) = (do
          let v ← nodeOrEmpty (fuel + 1) true true [.key, .value, .blockEnd] (reading handles
            (e.2.tokens ++ entries.flatMap entryTokens ++ .blockEnd :: rest))
          let es ← blockEntries (fuel + 2) v.2
          return ((.scalar (scalarTag true e.1) e.1, v.1) :: es.1, es.2)) := rfl
    have hvalue : nodeOrEmpty (fuel + 1) true true [.key, .value, .blockEnd] (reading handles
        (e.2.tokens ++ entries.flatMap entryTokens ++ .blockEnd :: rest)) =
          .ok (e.2.node, reading handles (entries.flatMap entryTokens ++ .blockEnd :: rest)) := by
      have hnext : [Token.key, .value, .blockEnd].contains (reading handles
          (e.2.tokens ++ entries.flatMap entryTokens ++ .blockEnd :: rest)).next = false := by
        rw [htokens, List.contains_eq_mem]
        exact decide_eq_false hend
      rw [nodeOrEmpty, hnext, if_neg (by simp), List.append_assoc]
      exact hnode handles _ fuel (endsPart_entries entries rest) (by omega)
    have hrest := ih (by omega : _ < fuel + 2)
    rw [hstep, hvalue]
    simp only [bind, Except.bind, hrest]
    rfl

/-- A mapping is read by its entries. -/
theorem node_mapping (entries : List (Text × Part)) (loose : Bool) (rest : List Token)
    (hfuel : 2 * (entries.flatMap entryTokens).length + 2 < fuel) :
    node fuel true loose (reading handles
        (.blockMappingStart :: (entries.flatMap entryTokens ++ .blockEnd :: rest))) =
      .ok (.mapping .map (entries.map entryNodes), reading handles rest) := by
  obtain ⟨fuel, rfl⟩ : ∃ m, fuel = m + 1 := ⟨fuel - 1, by omega⟩
  have hnode : node (fuel + 1) true loose (reading handles
      (.blockMappingStart :: (entries.flatMap entryTokens ++ .blockEnd :: rest))) = (do
        let es ← blockEntries fuel
          (reading handles (entries.flatMap entryTokens ++ .blockEnd :: rest))
        .ok (.mapping .map es.1, es.2)) := rfl
  rw [hnode, blockEntries_entries entries rest (by omega)]
  rfl

theorem contents_entries {entries : List (Text × Part)}
    (htag : ∀ e ∈ entries, scalarTag true e.1 = .str) (level : Nat) :
    contents level (entries.map entryNodes) = ⟨⟨[], []⟩, ⟨entries.map entryValues, []⟩, []⟩ := by
  induction entries with
  | nil => rw [List.map_nil, contents, List.map_nil]
  | cons e entries ih =>
    obtain ⟨he, hentries⟩ := List.forall_mem_cons.1 htag
    have hkey : Node.isKey (.scalar .str e.1) = true := rfl
    rw [List.map_cons, entryNodes, he, contents, ih hentries, e.2.means level, if_pos hkey,
      means_text e.1 level]
    · rfl
    · rintro t ⟨⟩
    · rintro t ⟨⟩

/-- A value under a new name is put behind the entries. -/
theorem putKey_entries {entries : List (Text × Part)} {name : Text} (v : Value)
    (h : name ∉ entries.map Prod.fst) :
    Value.putKey (entries.map entryValues) (.text name) v =
      entries.map entryValues ++ [(.text name, v)] := by
  induction entries with
  | nil => rfl
  | cons e entries ih =>
    rw [List.map_cons, List.mem_cons, not_or] at h
    have hother : Value.sameKey (.text e.1) (.text name) = false := beq_false_of_ne (Ne.symm h.1)
    rw [List.map_cons, entryValues, Value.putKey, hother, if_neg (by simp), ih h.2]
    rfl

/-- Entries with different names stay as they are. -/
theorem overridden_entries {entries : List (Text × Part)} (h : (entries.map Prod.fst).Nodup) :
    overridden (entries.map entryValues) = entries.map entryValues := by
  -- what has been put so far are the entries `done`, whose names do not come again
  suffices ∀ done more : List (Text × Part), ((done ++ more).map Prod.fst).Nodup →
      (more.map entryValues).foldl (fun es e => Value.putKey es e.1 e.2) (done.map entryValues) =
        (done ++ more).map entryValues from this [] entries h
  intro done more
  induction more generalizing done with
  | nil => rw [List.append_nil]; exact fun _ => rfl
  | cons e more ih =>
    intro hnodup
    have hnew : e.1 ∉ done.map Prod.fst := by
      rw [List.map_append, List.nodup_append] at hnodup
      exact fun hmem => hnodup.2.2 _ hmem e.1 (by simp) rfl
    have hput : Value.putKey (done.map entryValues) (.text e.1) e.2.value =
        (done ++ [e]).map entryValues := by
      rw [putKey_entries _ hnew, List.map_append]
      rfl
    rw [List.append_cons] at hnodup ⊢
    rw [← ih _ hnodup, ← hput]
    rfl

/-- A mapping whose keys are different names. -/
def Part.mapping (entries : List (Text × Part)) (htag : ∀ e ∈ entries, scalarTag true e.1 = .str)
    (hnodup : (entries.map Prod.fst).Nodup) : Part where
  tokens := .blockMappingStart :: (entries.flatMap entryTokens ++ [.blockEnd])
  node := .mapping .map (entries.map entryNodes)
  value := .map (entries.map entryValues)
  readsAs :=
    { noEnd := ⟨_, _, rfl, by simp⟩
      node_eq := fun handles rest fuel _ hfuel => by
        simp only [List.length_cons, List.length_append, List.length_nil] at hfuel
        rw [List.cons_append, List.append_assoc]
        exact node_mapping entries true rest (by omega) }
  means level := by
    rw [draft, draftMap, contents_entries htag]
    simp only [List.nil_append, List.append_nil, overridden_entries hnodup]
    rfl

/-- A document that consists of one mapping has the value of that mapping. -/
theorem read_mapping {entries : List (Text × Part)} (htag : ∀ e ∈ entries, scalarTag true e.1 = .str)
    (hnodup : (entries.map Prod.fst).Nodup)
    (ht : tokens t = (Part.mapping entries htag hnodup).tokens ++ [.streamEnd]) :
    read t = .ok (.map (entries.map entryValues)) := by
  have hdocument : document t = .ok (some (.mapping .map (entries.map entryNodes))) := by
    have hsplit : (Part.mapping entries htag hnodup).tokens ++ [.streamEnd] =
        .blockMappingStart :: (entries.flatMap entryTokens ++ .blockEnd :: [.streamEnd]) := by
      rw [Part.mapping, List.cons_append, List.append_assoc]
      rfl
    have hnode : node (8 * (tokens t).length + 8) true false (reading commonHandles (tokens t)) =
        .ok (.mapping .map (entries.map entryNodes), reading commonHandles [.streamEnd]) := by
      rw [ht, hsplit]
      exact node_mapping entries false [.streamEnd]
        (by rw [List.length_cons, List.length_append]; omega)
    have hstart (ts : List Token) :
        ({ tokens := ts, handles := commonHandles } : Reading) = reading commonHandles ts := rfl
    rw [ht, hsplit] at hnode
    rw [document, ht, hsplit]
    simp only [bind, Except.bind]
    rw [hstart, hnode]
    rfl
  -- the outermost level has no faults, so nothing stops the reading
  have hmeans := (Part.mapping entries htag hnodup).means 0
  rw [Part.mapping] at hmeans
  rw [read, hdocument]
  simp only [bind, Except.bind]
  rw [hmeans]
  rfl

/-- A document that consists of one entry whose sides stand for themselves. -/
theorem read_pair (plain : Bool) {name value : Text} (ht : tokens t = [.blockMappingStart, .key,
      .scalar true name, .value, .scalar plain value, .blockEnd, .streamEnd])
    (hname : scalarTag true name = .str) (hvalue : scalarTag plain value = .str) :
    read t = .ok (.map [(.text name, .text value)]) := by
  have htag : (scalarTag plain value).isCollection = false := by
    rw [hvalue]
    rfl
  have hv : scalarValue (scalarTag plain value) value = .ok (.text value) := by
    rw [hvalue]
    rfl
  exact @read_mapping t [(name, .scalar plain value (.text value) htag hv)]
    (List.forall_mem_singleton.mpr hname) (List.pairwise_singleton _ _) ht

/-- A document that consists of one entry is read as this entry, whatever its sides mean. -/
theorem document_entry {name value : Text} (ht : tokens t = [.blockMappingStart, .key,
      .scalar true name, .value, .scalar true value, .blockEnd, .streamEnd]) :
    document t = .ok (some (.mapping .map
      [(.scalar (scalarTag true name) name, .scalar (scalarTag true value) value)])) := by
  rw [document, ht]
  rfl

end TreeSieve.Yaml
