/-
Predicates recovered from their encodings.  A predicate is recovered whole where each of its
constants is a number that can be written, or no number, and its nesting has room; a decoder
never gives another predicate than the encoded one.
-/
import CatalogQuery.Predicate.Codec
import CatalogQuery.Proofs.Json.Recovery

namespace CatalogQuery

open Json (Raw)

namespace Constant

@[simp] theorem depth_encode (c : Constant) : c.encode.depth = 0 := by
  cases c with
  | bool b => rfl
  | int n => rfl
  | float x =>
    rw [encode, Json.float]
    split <;> rfl
  | text s => rfl

theorem recovers (c : Constant) : Recovers (decode? c.encode.raw) (c.isProper = true) c := by
  cases c with
  | bool b => exact .congr (.of_eq_some rfl) (by simp [isProper])
  | int n =>
    have hfits := fitsInt64_toInt n
    refine .congr (.of_eq_some ?_) (by simp [isProper])
    rw [encode, Json.raw_int (.inl hfits), decode?, if_pos hfits, Int64.ofInt_toInt]
  | float x =>
    by_cases hfinite : x.isFinite = true
    · refine .congr (.of_eq_some ?_) (by simp [isProper, hfinite])
      simp [encode, Json.float, Json.raw, Json.Number.raw, hfinite, decode?]
    · refine ⟨fun h => absurd h hfinite, fun _ => ?_⟩
      simp [encode, Json.float, Json.raw, hfinite, decode?]
  | text s => exact .congr (.of_eq_some rfl) (by simp [isProper])

theorem recovers_list (cs : List Constant) (room : Nat) :
    Recovers (decodeList? room (Json.array (cs.map encode)).raw)
      ((∀ c ∈ cs, c.isProper = true) ∧ (Json.array (cs.map encode)).depth ≤ room) cs := by
  cases room with
  | zero => exact .of_eq_none rfl (by simp)
  | succ room => exact Json.recovers_items fun c _ => .congr c.recovers (by simp)

end Constant

theorem Accessor.recovers (a : Accessor) (room : Nat) :
    Recovers (decode? room a.encode.raw) (a.encode.depth ≤ room) a := by
  cases a with
  | value | any | all | length => exact .congr (.of_eq_some rfl) (by simp [encode])
  | index i =>
    cases room with
    | zero => exact .of_eq_none rfl (by simp [encode])
    | succ room =>
      refine .congr (.of_eq_some ?_) (by simp [encode, Json.depth_object_le])
      have hsteps : decode? (room + 1) (encode (.index i)).raw =
          (Json.int i.toInt).raw.int64?.map Accessor.index := rfl
      rw [hsteps, Json.int64?_int, Option.map_some]
  | key k =>
    cases room with
    | zero => exact .of_eq_none rfl (by simp [encode])
    | succ room => exact .congr (.of_eq_some rfl) (by simp [encode, Json.depth_object_le])

theorem Scalar.recovers (s : Scalar) (room : Nat) :
    Recovers (decode? room s.encode.raw) (s.encode.depth ≤ room) s := by
  cases room with
  | zero => exact .of_eq_none rfl (by simp [encode])
  | succ room =>
    have hsteps : decode? (room + 1) s.encode.raw =
        (Accessor.decode? room s.accessor.encode.raw).bind fun accessor =>
          some ⟨s.name, accessor⟩ := rfl
    rw [hsteps]
    exact .congr ((s.accessor.recovers room).bind (.of_eq_some rfl))
      (by simp [encode, Json.depth_object_le])

theorem Operator.decode?_name (op : Operator) (room : Nat) :
    decode? room (Json.string op.name).raw = some op := by
  obtain c | ⟨ignoreCase, negated⟩ := op
  · cases c <;> rfl
  · cases ignoreCase <;> cases negated <;> rfl

namespace Leaf

def constants : Leaf → List Constant
  | .compare _ _ value => [value]
  | .inRange _ low high | .notInRange _ low high => [low, high]
  | .inSet _ values | .notInSet _ values => values
  | .present _ | .notPresent _ => []
  | .arrayContains _ value | .arrayNotContains _ value => [value]

theorem recovers_range (s : Scalar) (low high : Constant) (room : Nat) :
    Recovers (decodeRange? room (encodeRange s low high).raw)
      ((low.isProper = true ∧ high.isProper = true) ∧ (encodeRange s low high).depth ≤ room + 1)
      (s, low, high) := by
  have hsteps : decodeRange? room (encodeRange s low high).raw =
      (Scalar.decode? room s.encode.raw).bind fun s =>
        (Constant.decode? low.encode.raw).bind fun low =>
          (Constant.decode? high.encode.raw).bind fun high => some (s, low, high) := rfl
  rw [hsteps]
  refine .congr ((s.recovers room).bind (low.recovers.bind (high.recovers.bind
    (.of_eq_some rfl)))) ?_
  simp [encodeRange, Json.depth_object_le, and_comm]

theorem recovers_set (s : Scalar) (values : List Constant) (room : Nat) :
    Recovers (decodeSet? room (encodeSet s values).raw)
      ((∀ c ∈ values, c.isProper = true) ∧ (encodeSet s values).depth ≤ room + 1)
      (s, values) := by
  have hsteps : decodeSet? room (encodeSet s values).raw =
      (Scalar.decode? room s.encode.raw).bind fun s =>
        (Constant.decodeList? room (Json.array (values.map Constant.encode)).raw).bind
          fun values => some (s, values) := rfl
  rw [hsteps]
  refine .congr ((s.recovers room).bind ((Constant.recovers_list values room).bind
    (.of_eq_some rfl))) ?_
  simp [encodeSet, Json.depth_object_le, and_left_comm]

theorem recovers_item (name : String) (value : Constant) (room : Nat) :
    Recovers (decodeItem? (encodeItem name value).raw)
      (value.isProper = true ∧ (encodeItem name value).depth ≤ room + 1) (name, value) := by
  have hsteps : decodeItem? (encodeItem name value).raw =
      (Constant.decode? value.encode.raw).bind fun value => some (name, value) := rfl
  rw [hsteps]
  refine .congr (value.recovers.bind (.of_eq_some rfl)) ?_
  simp [encodeItem, Json.depth_object_le]

/-- A leaf is recovered from its operator where its operands are recovered. -/
theorem recovers_of_operands {l : Leaf} {name : String} {operands : Json} {p : Prop}
    (hone : Predicate.decode? 1 (Json.object [(name, operands)]).raw = none)
    (hsteps : ∀ room, Predicate.decode? (room + 2) (Json.object [(name, operands)]).raw =
      (decode? room name operands.raw).map .leaf)
    (hoperands : operands.depth ≠ 0)
    (h : ∀ room, Recovers (decode? room name operands.raw) (p ∧ operands.depth ≤ room + 1) l)
    (room : Nat) :
    Recovers (Predicate.decode? room (Json.object [(name, operands)]).raw)
      (p ∧ (Json.object [(name, operands)]).depth ≤ room) (.leaf l) := by
  refine Json.recovers_alternative (Predicate.decode? · _) rfl hone hoperands (fun room => ?_) room
  rw [hsteps]
  exact (h room).map _

theorem recovers (l : Leaf) (room : Nat) :
    Recovers (Predicate.decode? room l.encode.raw)
      ((∀ c ∈ l.constants, c.isProper = true) ∧ l.encode.depth ≤ room) (.leaf l) := by
  cases l with
  | compare s op value =>
    refine recovers_of_operands rfl (fun _ => rfl) (by simp) (fun room => ?_) room
    have hsteps : decode? room "compare" (Json.object [("scalar", s.encode),
          ("op", .string op.name), ("value", value.encode)]).raw =
        (Scalar.decode? room s.encode.raw).bind fun s =>
          (Operator.decode? room (Json.string op.name).raw).bind fun op =>
            (Constant.decode? value.encode.raw).bind fun value =>
              some (Leaf.compare s op value) := rfl
    rw [hsteps, op.decode?_name]
    refine .congr ((s.recovers room).bind (value.recovers.bind (.of_eq_some rfl))) ?_
    simp [constants, Json.depth_object_le, and_comm]
  | inRange s low high | notInRange s low high =>
    refine recovers_of_operands rfl (fun _ => rfl) (by simp [encodeRange]) (fun room => ?_) room
    exact .congr ((recovers_range s low high room).map _) (by simp [constants])
  | inSet s values | notInSet s values =>
    refine recovers_of_operands rfl (fun _ => rfl) (by simp [encodeSet]) (fun room => ?_) room
    exact (recovers_set s values room).map _
  | present name | notPresent name =>
    refine recovers_of_operands rfl (fun _ => rfl) (by simp) (fun room => ?_) room
    exact .congr (.of_eq_some rfl) (by simp [constants, Json.depth_object_le])
  | arrayContains name value | arrayNotContains name value =>
    refine recovers_of_operands rfl (fun _ => rfl) (by simp [encodeItem]) (fun room => ?_) room
    exact .congr ((recovers_item name value room).map _) (by simp [constants])

end Leaf

namespace Predicate

mutual

def constants : Predicate → List Constant
  | .and args | .or args => constantsList args
  | .not p => p.constants
  | .leaf l => l.constants

def constantsList : List Predicate → List Constant
  | [] => []
  | p :: rest => p.constants ++ constantsList rest

end

mutual

/-- A predicate is recovered where its constants can be written and its nesting has room. -/
theorem recovers (p : Predicate) (room : Nat) :
    Recovers (decode? room p.encode.raw)
      ((∀ c ∈ p.constants, c.isProper = true) ∧ p.encode.depth ≤ room) p := by
  -- along the predicate; each operand is recovered with whatever room is left for it
  match p with
  | .and args =>
    refine Json.recovers_alternative (decode? · _) rfl rfl (by simp) (fun room => ?_) room
    exact (recovers_list args room).map _
  | .or args =>
    refine Json.recovers_alternative (decode? · _) rfl rfl (by simp) (fun room => ?_) room
    exact (recovers_list args room).map _
  | .not p =>
    refine Json.recovers_wrapped (decode? · _) rfl (fun room => ?_) (recovers p) room
    rw [decode?]
    rfl
  | .leaf l => exact l.recovers room

theorem recovers_list (args : List Predicate) (room : Nat) :
    Recovers ((Json.rawItems (encodeList args)).mapM (decode? room))
      ((∀ c ∈ constantsList args, c.isProper = true) ∧
        (Json.array (encodeList args)).depth ≤ room + 1) args := by
  match args with
  | [] => exact .congr (.of_eq_some rfl) (by simp [constantsList, encodeList, Json.depth_array_le])
  | p :: rest =>
    refine .congr ((recovers p room).cons (recovers_list rest room)) ?_
    simp [constantsList, encodeList, Json.depth_array_le, or_imp, forall_and, and_assoc,
      and_left_comm]

end

end Predicate

end CatalogQuery
