/-
Stored queries read back.  Storing a tree writes its text, whatever the tree is; using it reads
the text again, within a bound on the nesting.  What comes back is the stored tree, as long as
its constants can be written and its nesting is within the bound, and otherwise it cannot be
read at all.
-/
import CatalogQuery.Proofs.Codec.Queries
import CatalogQuery.Query.Registry

namespace CatalogQuery

theorem Assoc.get?_insert_self {κ α : Type} [Ord κ] [Std.ReflOrd κ] (key : κ) (value : α)
    (entries : List (κ × α)) : get? key (insert key value entries) = some value := by
  induction entries with
  | nil => simp [insert, get?]
  | cons e rest ih =>
    obtain ⟨k, v⟩ := e
    cases h : compare key k with
    | lt | eq => simp [insert, get?, h]
    | gt => simp [insert, get?, h, ih]

/-- The text of a tree is read as the tree, if it can be read. -/
theorem Node.recovers_read? (n : Node) :
    Recovers (read? n.encode.write)
      ((∀ c ∈ n.constants, c.isProper = true) ∧ n.encode.depth ≤ Json.depthLimit) n := by
  rw [read?, Json.read?_write]
  exact n.recovers Json.depthLimit

/-- No other tree has the text of a tree that can be read. -/
theorem Node.eq_of_write {m n : Node} (hproper : ∀ c ∈ n.constants, c.isProper = true)
    (hdepth : n.encode.depth ≤ Json.depthLimit) (h : m.encode.write = n.encode.write) :
    m = n := by
  have hread := n.recovers_read?.eq_some ⟨hproper, hdepth⟩
  rw [← h] at hread
  by_cases hm : (∀ c ∈ m.constants, c.isProper = true) ∧ m.encode.depth ≤ Json.depthLimit
  · exact Option.some.inj ((m.recovers_read?.eq_some hm).symm.trans hread)
  · rw [m.recovers_read?.eq_none hm] at hread
    cases hread

namespace NamedQueries

variable (queries : NamedQueries) (name : QueryName) (node : Node)

theorem get?_insertNode :
    Dict.get? (queries.insertNode name node) name = some node.encode.write :=
  Assoc.get?_insert_self name _ queries.entries

variable {queries name node}

/-- A stored tree is resolved by reading its text. -/
theorem resolve_eq_ok {other : Node} (h : Node.read? node.encode.write = some other) :
    (queries.insertNode name node).resolve name = .ok other := by
  simp only [resolve, get?_insertNode, h]

theorem resolve_eq_invalid (h : Node.read? node.encode.write = none) :
    (queries.insertNode name node).resolve name =
      .error (.invalidNamedQuerySource name.space name.name) := by
  simp only [resolve, get?_insertNode, h]

/-- A stored text, however it was written, stands for the tree that is written like what it is
read as. -/
theorem resolve_of_write
    (h : (queries.resolve name).toOption.map (fun n => n.encode.write) = some node.encode.write)
    (hproper : ∀ c ∈ node.constants, c.isProper = true)
    (hdepth : node.encode.depth ≤ Json.depthLimit) : queries.resolve name = .ok node := by
  cases hresolve : queries.resolve name with
  | error f =>
      rw [hresolve] at h
      cases h
  | ok other =>
      rw [hresolve] at h
      rw [Node.eq_of_write hproper hdepth (Option.some.inj h)]

variable (queries name node)

/-- A tree whose constants can be written and whose nesting is within the bound comes back as it
was stored. -/
theorem resolve_insertNode (hproper : ∀ c ∈ node.constants, c.isProper = true)
    (hdepth : node.encode.depth ≤ Json.depthLimit) :
    (queries.insertNode name node).resolve name = .ok node :=
  resolve_eq_ok (node.recovers_read?.eq_some ⟨hproper, hdepth⟩)

/-- The whole range of integers, both zeros, a whole floating point number and a text with
control characters come back as they were stored. -/
theorem resolve_insertNode_constants :
    let constants : List Constant := [.int Int64.minValue, .int Int64.maxValue, .int 1,
      .float ⟨0x3FF0000000000000⟩, .float ⟨0x8000000000000000⟩, .float ⟨0⟩, .bool true,
      .text "a\"\\\n\t\x00"]
    let node : Node := .filter { name := "f", positional := constants }
      [.metaFilter .everyFile (.not (.leaf (.inSet ⟨"x", .index (-1)⟩ constants)))]
    resolve (insertNode .empty ⟨"s", "q"⟩ node) ⟨"s", "q"⟩ = .ok node :=
  resolve_insertNode _ _ _ (by decide) (by decide)

/-- A stored tree can be read back exactly if its constants can be written and its nesting is
within the bound. -/
theorem resolve_insertNode_ne_invalid_iff :
    (∀ space own, (queries.insertNode name node).resolve name ≠
      .error (.invalidNamedQuerySource space own)) ↔
    (∀ c ∈ node.constants, c.isProper = true) ∧ node.encode.depth ≤ Json.depthLimit := by
  constructor
  · intro hread
    by_contra hnot
    exact hread name.space name.name (resolve_eq_invalid (node.recovers_read?.eq_none hnot))
  · intro h space own
    rw [resolve_eq_ok (node.recovers_read?.eq_some h)]
    exact nofun

theorem depth_encode_repeat_parentsOf (n : Node) (k : Nat) :
    (Nat.repeat Node.parentsOf k n).encode.depth = k + n.encode.depth := by
  induction k with
  | zero => simp [Nat.repeat]
  | succ k ih =>
    have hstep (q : Node) : (Node.encode (.parentsOf q)).depth = q.encode.depth + 1 := by
      simp [Node.encode, Json.depth, Json.depthMembers]
    rw [Nat.repeat, hstep, ih]
    omega

/-- One level too many is stored and cannot be read back. -/
theorem resolve_insertNode_deep :
    resolve (insertNode .empty ⟨"t", "r"⟩
      (Nat.repeat Node.parentsOf 125 (.filter { name := "f" } []))) ⟨"t", "r"⟩ =
    .error (.invalidNamedQuerySource "t" "r") := by
  have hdeep : ¬(Nat.repeat Node.parentsOf 125 (.filter { name := "f" } [])).encode.depth ≤
      Json.depthLimit := by
    rw [depth_encode_repeat_parentsOf]
    decide
  exact resolve_eq_invalid ((Node.recovers_read? _).eq_none fun h => hdeep h.2)

end NamedQueries

end CatalogQuery
