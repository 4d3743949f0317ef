import TellerTerminal.Json.Reading
import TellerTerminal.Proofs.Json.Printing

/-!
# Values that survive a text

A value without decimals is read back from its pretty text, unless its arrays and objects lie too
deep within each other.  `Plain` collects what the reading relies on, so that each part of the
reading is one induction over it.
-/

namespace TellerTerminal

/-- An element that is greater than all others goes to the end. -/
theorem Ascending.insert_of_greater {α κ : Type} [LT κ] [DecidableLT κ]
    [Std.Asymm fun a b : κ => a < b] {key : α → κ} {x : α} {entries : List α}
    (h : ∀ y ∈ entries, key y < key x) : insert key x entries = entries ++ [x] := by
  induction entries with
  | nil => rfl
  | cons y rest ih =>
      obtain ⟨hy, hrest⟩ := List.forall_mem_cons.mp h
      have hnot : ¬ key x < key y := Std.Asymm.asymm (r := fun a b : κ => a < b) _ _ hy
      simp [insert, hnot, hy, ih hrest]

namespace Json

/-- The names ascend strictly. -/
def IsAscending (members : List (String × Json)) : Prop :=
  members.Pairwise fun x y => x.1 < y.1

/-- A value without decimals, as the program can hold it: every integer fits a signed or an unsigned
word of 64 bits, the members of every object ascend, and at most `depth` arrays and objects lie
within each other. -/
inductive Plain : Nat → Json → Prop
  | null {depth : Nat} : Plain depth .null
  | bool {depth : Nat} (value : Bool) : Plain depth (.bool value)
  | integer {depth : Nat} {value : Int} (low : -(UInt64.size : Int) ≤ 2 * value)
      (high : value < UInt64.size) : Plain depth (.integer value)
  | string {depth : Nat} (text : String) : Plain depth (.string text)
  | array {depth : Nat} {items : List Json} (h : ∀ item ∈ items, Plain depth item) :
      Plain (depth + 1) (.array items)
  | object {depth : Nat} {members : List (String × Json)} (ascending : IsAscending members)
      (h : ∀ member ∈ members, Plain depth member.2) : Plain (depth + 1) (.object members)

/-- Members that ascend are inserted one behind the other. -/
theorem foldl_insert_eq_append {done members : List (String × Json)}
    (h : IsAscending (done ++ members)) :
    members.foldl (fun sorted member => Ascending.insert Prod.fst member sorted) done =
      done ++ members := by
  induction members generalizing done with
  | nil => simp
  | cons member rest ih =>
      have hlast : ∀ y ∈ done, y.1 < member.1 := fun y hy =>
        (List.pairwise_append.mp h).2.2 y hy member (by simp)
      have happend : done ++ member :: rest = done ++ [member] ++ rest := by simp
      rw [happend] at h ⊢
      rw [List.foldl_cons, Ascending.insert_of_greater hlast, ih h]

theorem ordered_eq_self {members : List (String × Json)} (h : IsAscending members) :
    ordered members = members :=
  foldl_insert_eq_append h

variable {items : List Json} {members : List (String × Json)} {depth : Nat}

theorem itemsDepth_le (h : ∀ item ∈ items, item.node.depth ≤ depth) :
    Node.depth.itemsDepth (node.itemsNodes items) ≤ depth := by
  induction items with
  | nil => exact Nat.zero_le _
  | cons item rest ih =>
      obtain ⟨hitem, hrest⟩ := List.forall_mem_cons.mp h
      exact Nat.max_le.mpr ⟨hitem, ih hrest⟩

theorem membersDepth_le (h : ∀ member ∈ members, member.2.node.depth ≤ depth) :
    Node.depth.membersDepth (node.membersNodes members) ≤ depth := by
  induction members with
  | nil => exact Nat.zero_le _
  | cons member rest ih =>
      obtain ⟨hmember, hrest⟩ := List.forall_mem_cons.mp h
      exact Nat.max_le.mpr ⟨hmember, ih hrest⟩

theorem itemsToJson?_itemsNodes (h : ∀ item ∈ items, item.node.toJson? = some item) :
    Node.toJson?.itemsToJson? (node.itemsNodes items) = some items := by
  induction items with
  | nil => rfl
  | cons item rest ih =>
      obtain ⟨hitem, hrest⟩ := List.forall_mem_cons.mp h
      simp [node.itemsNodes, Node.toJson?.itemsToJson?, hitem, ih hrest]

theorem membersToJson?_membersNodes
    (h : ∀ member ∈ members, member.2.node.toJson? = some member.2) :
    Node.toJson?.membersToJson? (node.membersNodes members) = some members := by
  induction members with
  | nil => rfl
  | cons member rest ih =>
      obtain ⟨hmember, hrest⟩ := List.forall_mem_cons.mp h
      simp [node.membersNodes, Node.toJson?.membersToJson?, hmember, ih hrest]

namespace Plain

variable {value : Json}

theorem floatFree (h : value.Plain depth) : value.FloatFree := by
  induction h with
  | null => exact .null
  | bool value => exact .bool value
  | integer => exact .integer _
  | string text => exact .string text
  | array _ ih => exact .array ih
  | object _ _ ih => exact .object ih

/-- The bound holds for the node, whose depth a reading measures. -/
theorem depth_node (h : value.Plain depth) : value.node.depth ≤ depth := by
  induction h with
  | null => exact Nat.zero_le _
  | bool value => exact Nat.zero_le _
  | integer => exact Nat.zero_le _
  | string text => exact Nat.zero_le _
  | array _ ih => exact Nat.succ_le_succ (itemsDepth_le ih)
  | object _ _ ih => exact Nat.succ_le_succ (membersDepth_le ih)

theorem toJson?_node (h : value.Plain depth) : value.node.toJson? = some value := by
  induction h with
  | null => rfl
  | bool value => rfl
  | integer low high => exact Numeral.toJson?_ofInt low high
  | string text => simp [node, Node.toJson?]
  | array _ ih => simp [node, Node.toJson?, itemsToJson?_itemsNodes ih]
  | object hascending _ ih =>
      simp [node, Node.toJson?, membersToJson?_membersNodes ih, ordered_eq_self hascending]

/-- A plain value is read back from its pretty text exactly if it does not lie too deep. -/
theorem ofText?_pretty_eq (h : value.Plain depth) :
    Json.ofText? value.pretty =
      if value.node.depth ≤ Node.depthLimit then some value else none := by
  simp only [Json.ofText?, h.floatFree.ofText?_pretty, Option.bind_eq_bind, Option.bind_some,
    h.toJson?_node]

theorem ofText?_pretty (h : value.Plain depth) (hdepth : depth ≤ Node.depthLimit) :
    Json.ofText? value.pretty = some value := by
  rw [h.ofText?_pretty_eq, if_pos (Nat.le_trans h.depth_node hdepth)]

end Plain

end Json

end TellerTerminal
