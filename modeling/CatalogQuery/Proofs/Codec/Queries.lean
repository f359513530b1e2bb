/-
Query trees recovered from their encodings.  A tree is recovered whole, every operand and every
argument of a filter included, where its constants can be written and its nesting has room.
-/
import CatalogQuery.Proofs.Codec.Predicates
import CatalogQuery.Query.Codec

namespace CatalogQuery

open Json (Raw)

section Dictionaries

variable {κ α : Type} [Ord κ]

theorem Assoc.insert_of_forall_gt [Std.OrientedOrd κ] {key : κ} {value : α}
    {entries : List (κ × α)} (h : ∀ e ∈ entries, compare e.1 key = .lt) :
    insert key value entries = entries ++ [(key, value)] := by
  induction entries with
  | nil => rfl
  | cons e rest ih =>
    obtain ⟨hfirst, hrest⟩ := List.forall_mem_cons.1 h
    have hgt : compare key e.1 = .gt := Std.OrientedCmp.gt_of_lt hfirst
    obtain ⟨k, v⟩ := e
    simp only [insert, hgt, ih hrest, List.cons_append]

/-- Entries in increasing order are put in order as they are. -/
theorem Assoc.ofList_of_increasing [Std.OrientedOrd κ] {entries : List (κ × α)}
    (h : Increasing entries) : ofList entries = entries := by
  suffices hrun : ∀ done rest : List (κ × α), Increasing (done ++ rest) →
      rest.foldl (fun done e => insert e.1 e.2 done) done = done ++ rest from hrun [] entries h
  intro done rest
  induction rest generalizing done with
  | nil => simp
  | cons e rest ih =>
    intro hall
    have hlast : ∀ e' ∈ done, compare e'.1 e.1 = .lt := fun e' he' =>
      (List.pairwise_append.1 hall).2.2 e' he' e List.mem_cons_self
    rw [List.foldl_cons, insert_of_forall_gt hlast, ih _ (by simpa using hall)]
    simp

theorem Dict.ofList_entries [Std.TransOrd κ] [Std.LawfulEqOrd κ] (d : Dict κ α) :
    ofList d.entries = d := by
  obtain ⟨entries, hincreasing⟩ := d
  simp only [ofList, Assoc.ofList_of_increasing hincreasing]

end Dictionaries

theorem FileList.recovers (files : FileList) (room : Nat) :
    Recovers (decode? room files.encode.raw) (files.encode.depth ≤ room) files := by
  cases files with
  | ids entries | dids entries =>
    cases room with
    | zero => exact .of_eq_none rfl (by simp [encode])
    | succ room =>
      exact .congr ((Json.recovers_texts? entries room).map _)
        (by simp [encode, Json.depth_object_le])
  | names space entries =>
    rw [← true_and (_ ≤ room)]
    refine Json.recovers_alternative (decode? · _) rfl rfl (by simp) (fun room => ?_) room
    have hsteps : decode? (room + 2) (encode (.names space entries)).raw =
        (Raw.orElse? (Raw.optional? Raw.text?) none (some (Json.ofOption space).raw)).bind
          fun space => (Raw.texts? room (Json.array (entries.map .string)).raw).bind
            fun entries => some (.names space entries) := rfl
    rw [hsteps, Raw.orElse?, Json.optional?_ofOption]
    exact .congr ((Json.recovers_texts? entries room).bind (.of_eq_some rfl))
      (by simp [Json.depth_object_le])

theorem DatasetSelector.decode?_encode (s : DatasetSelector) : decode? s.encode.raw = some s := by
  obtain ⟨space, name, pattern, withChildren, recursively⟩ := s
  cases space <;> rfl

theorem FilterCall.recovers_keyword (keyword : Dict String Constant) (room : Nat) :
    Recovers (decodeKeyword? room
        (Json.object (keyword.entries.map fun (k, c) => (k, c.encode))).raw)
      ((∀ c ∈ keyword.entries.map Prod.snd, c.isProper = true) ∧
        (Json.object (keyword.entries.map fun (k, c) => (k, c.encode))).depth ≤ room) keyword := by
  cases room with
  | zero => exact .of_eq_none rfl (by simp)
  | succ room =>
    have hsteps : decodeKeyword? (room + 1)
          (Json.object (keyword.entries.map fun (k, c) => (k, c.encode))).raw =
        (Raw.named? (Json.rawMembers (keyword.entries.map fun (k, c) => (k, c.encode)))).bind
          fun members => (members.mapM fun m => (Constant.decode? m.2).map fun c => (m.1, c)).bind
            fun entries => some (Dict.ofList entries) := rfl
    have hdepth : (Json.object (keyword.entries.map fun (k, c) => (k, c.encode))).depth ≤
        room + 1 :=
      Json.depth_object_le.2 (List.forall_mem_map.2 fun e _ => by simp)
    rw [hsteps, Json.named?_rawMembers, Option.bind_some, List.map_map]
    refine .congr ((Recovers.mapM fun e _ => e.2.recovers.map fun c => (e.1, c)).bind
      (.of_eq_some (congrArg some keyword.ofList_entries))) ?_
    refine and_congr ?_ (iff_of_true trivial hdepth)
    rw [List.forall_mem_map]

namespace Node

mutual

/-- The constants of a tree, in its predicates and in the arguments of its filters. -/
def constants : Node → List Constant
  | .everyFile | .named .. | .list _ | .datasets _ | .namedQueries .. => []
  | .filesOf query | .parentsOf query | .childrenOf query | .limit query _ | .skip query _ =>
    query.constants
  | .union operands | .join operands | .datasetUnion operands => constantsList operands
  | .minus left right => left.constants ++ right.constants
  | .metaFilter query predicate | .datasetsHaving query predicate =>
    query.constants ++ predicate.constants
  | .filter call inputs =>
    call.positional ++ call.keyword.entries.map Prod.snd ++ constantsList inputs

def constantsList : List Node → List Constant
  | [] => []
  | n :: rest => n.constants ++ constantsList rest

end

theorem optional?_encode (f : Raw → Option Node) (n : Node) :
    Raw.optional? f n.encode.raw = (f n.encode.raw).map some := by
  cases n <;> rfl

variable {name : String} {query : Node} {p : Prop}

/-- A window is recovered where the query in it is. -/
theorem recovers_window {key : String} {count : UInt64} {make : Node → UInt64 → Node}
    (hone : decode? 1 (Json.object
      [(name, .object [("query", query.encode), (key, .int count.toNat)])]).raw = none)
    (hsteps : ∀ room, decode? (room + 2) (Json.object
        [(name, .object [("query", query.encode), (key, .int count.toNat)])]).raw =
      (decode? room query.encode.raw).bind fun query =>
        ((Json.int count.toNat).raw.uint64?).bind fun count => some (make query count))
    (h : ∀ room, Recovers (decode? room query.encode.raw) (p ∧ query.encode.depth ≤ room) query)
    (room : Nat) :
    Recovers (decode? room (Json.object
        [(name, .object [("query", query.encode), (key, .int count.toNat)])]).raw)
      (p ∧ (Json.object
        [(name, .object [("query", query.encode), (key, .int count.toNat)])]).depth ≤ room)
      (make query count) := by
  refine Json.recovers_alternative (decode? · _) rfl hone (by simp) (fun room => ?_) room
  rw [hsteps, Json.uint64?_int]
  exact .congr ((h room).bind (.of_eq_some rfl)) (by simp [Json.depth_object_le])

/-- A selection by metadata is recovered where its query and its predicate are. -/
theorem recovers_condition {predicate : Predicate} {make : Node → Predicate → Node}
    (hone : decode? 1 (Json.object
      [(name, .object [("query", query.encode), ("expr", predicate.encode)])]).raw = none)
    (hsteps : ∀ room, decode? (room + 2) (Json.object
        [(name, .object [("query", query.encode), ("expr", predicate.encode)])]).raw =
      (decode? room query.encode.raw).bind fun query =>
        (Predicate.decode? room predicate.encode.raw).bind fun predicate =>
          some (make query predicate))
    (h : ∀ room, Recovers (decode? room query.encode.raw) (p ∧ query.encode.depth ≤ room) query)
    (room : Nat) :
    Recovers (decode? room (Json.object
        [(name, .object [("query", query.encode), ("expr", predicate.encode)])]).raw)
      ((p ∧ ∀ c ∈ predicate.constants, c.isProper = true) ∧ (Json.object
        [(name, .object [("query", query.encode), ("expr", predicate.encode)])]).depth ≤ room)
      (make query predicate) := by
  refine Json.recovers_alternative (decode? · _) rfl hone (by simp) (fun room => ?_) room
  rw [hsteps]
  refine .congr ((h room).bind ((predicate.recovers room).bind (.of_eq_some rfl))) ?_
  simp [Json.depth_object_le, and_assoc, and_left_comm]

mutual

/-- A tree is recovered where its constants can be written and its nesting has room. -/
theorem recovers (n : Node) (room : Nat) :
    Recovers (decode? room n.encode.raw)
      ((∀ c ∈ n.constants, c.isProper = true) ∧ n.encode.depth ≤ room) n := by
  -- along the tree; the decoder's steps are read off for each kind of node, and what is left is
  -- that its parts are recovered with one or two levels less
  match n with
  | .everyFile =>
    refine Json.recovers_alternative (decode? · _) rfl rfl (by simp) (fun room => ?_) room
    exact .congr (.of_eq_some rfl) (by simp [constants, Json.depth_object_le])
  | .filesOf query =>
    refine Json.recovers_alternative (decode? · _) rfl rfl (by simp) (fun room => ?_) room
    have hsteps : decode? (room + 2) (encode (.filesOf query)).raw =
        (Raw.optional? (decode? room) query.encode.raw).bind
          fun query => some (match query with
            | none => .everyFile
            | some query => .filesOf query) := rfl
    rw [hsteps, optional?_encode]
    exact .congr (((recovers query room).map some).bind (.of_eq_some rfl))
      (by simp [constants, Json.depth_object_le])
  | .named space name =>
    refine Json.recovers_alternative (decode? · _) rfl rfl (by simp) (fun room => ?_) room
    exact .congr (.of_eq_some (by cases space <;> rfl)) (by simp [constants, Json.depth_object_le])
  | .list files =>
    refine Json.recovers_wrapped (decode? · _) rfl (fun room => ?_)
      (fun room => .congr (files.recovers room) (by simp [constants])) room
    rw [decode?]
    rfl
  | .union operands =>
    refine Json.recovers_alternative (decode? · _) rfl rfl (by simp) (fun room => ?_) room
    exact (recovers_list operands room).map _
  | .join operands =>
    refine Json.recovers_alternative (decode? · _) rfl rfl (by simp) (fun room => ?_) room
    exact (recovers_list operands room).map _
  | .minus left right =>
    refine Json.recovers_alternative (decode? · _) rfl rfl (by simp) (fun room => ?_) room
    have hsteps : decode? (room + 2) (encode (.minus left right)).raw =
        (decode? room left.encode.raw).bind fun left =>
          (decode? room right.encode.raw).bind fun right => some (.minus left right) := rfl
    rw [hsteps]
    refine .congr ((recovers left room).bind ((recovers right room).bind (.of_eq_some rfl))) ?_
    simp [constants, Json.depth_object_le, or_imp, forall_and, and_assoc, and_left_comm]
  | .parentsOf query =>
    refine Json.recovers_wrapped (decode? · _) rfl (fun room => ?_) (recovers query) room
    rw [decode?]
    rfl
  | .childrenOf query =>
    refine Json.recovers_wrapped (decode? · _) rfl (fun room => ?_) (recovers query) room
    rw [decode?]
    rfl
  | .limit query count => exact recovers_window rfl (fun _ => rfl) (recovers query) room
  | .skip query count => exact recovers_window rfl (fun _ => rfl) (recovers query) room
  | .metaFilter query predicate =>
    refine .congr (recovers_condition rfl (fun _ => rfl) (recovers query) room) ?_
    simp [constants, encode, or_imp, forall_and]
  | .filter call inputs =>
    refine Json.recovers_alternative (decode? · _) rfl rfl (by simp) (fun room => ?_) room
    have hsteps : decode? (room + 2) (encode (.filter call inputs)).raw =
        (Constant.decodeList? room (Json.array (call.positional.map Constant.encode)).raw).bind
          fun positional => (FilterCall.decodeKeyword? room
            (Json.object (call.keyword.entries.map fun (k, c) => (k, c.encode))).raw).bind
            fun keyword => (decodeInputs? room (Json.array (encodeList inputs)).raw).bind
              fun inputs => some (.filter { name := call.name, positional, keyword } inputs) := rfl
    rw [hsteps]
    refine .congr ((Constant.recovers_list call.positional room).bind
      ((FilterCall.recovers_keyword call.keyword room).bind
        ((recovers_inputs inputs room).bind (.of_eq_some rfl)))) ?_
    simp [constants, Json.depth_object_le, or_imp, forall_and, and_assoc, and_left_comm]
  | .datasets selector =>
    refine Json.recovers_alternative (decode? · _) rfl rfl (by simp [DatasetSelector.encode])
      (fun room => ?_) room
    have hsteps : decode? (room + 2) (encode (.datasets selector)).raw =
        (DatasetSelector.decode? selector.encode.raw).map .datasets := rfl
    rw [hsteps, selector.decode?_encode]
    exact .congr (.of_eq_some rfl)
      (by simp [constants, DatasetSelector.encode, Json.depth_object_le])
  | .datasetsHaving query predicate =>
    refine .congr (recovers_condition rfl (fun _ => rfl) (recovers query) room) ?_
    simp [constants, encode, or_imp, forall_and]
  | .datasetUnion parts =>
    refine Json.recovers_alternative (decode? · _) rfl rfl (by simp) (fun room => ?_) room
    exact (recovers_list parts room).map _
  | .namedQueries space pattern =>
    refine Json.recovers_alternative (decode? · _) rfl rfl (by simp) (fun room => ?_) room
    exact .congr (.of_eq_some (by cases space <;> cases pattern <;> rfl))
      (by simp [constants, Json.depth_object_le])

/-- Operands are recovered where each of them is. -/
theorem recovers_list (nodes : List Node) (room : Nat) :
    Recovers ((Json.rawItems (encodeList nodes)).mapM (decode? room))
      ((∀ c ∈ constantsList nodes, c.isProper = true) ∧
        (Json.array (encodeList nodes)).depth ≤ room + 1) nodes := by
  match nodes with
  | [] => exact .congr (.of_eq_some rfl) (by simp [constantsList, encodeList, Json.depth_array_le])
  | n :: rest =>
    refine .congr ((recovers n room).cons (recovers_list rest room)) ?_
    simp [constantsList, encodeList, Json.depth_array_le, or_imp, forall_and, and_assoc,
      and_left_comm]

theorem recovers_inputs (inputs : List Node) (room : Nat) :
    Recovers (decodeInputs? room (Json.array (encodeList inputs)).raw)
      ((∀ c ∈ constantsList inputs, c.isProper = true) ∧
        (Json.array (encodeList inputs)).depth ≤ room) inputs := by
  cases room with
  | zero => exact .of_eq_none rfl (by simp)
  | succ room =>
    have hsteps : decodeInputs? (room + 1) (Json.array (encodeList inputs)).raw =
        (Json.rawItems (encodeList inputs)).mapM (decode? room) := by
      rw [Json.raw, decodeInputs?]
    rw [hsteps]
    exact recovers_list inputs room

end

end Node

end CatalogQuery
