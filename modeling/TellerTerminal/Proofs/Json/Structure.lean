import TellerTerminal.Json.Node

/-!
# Nodes read back from their tokens

The tokens of a node stand in the order in which they are written.  The machine that takes them
ends with the node complete and its stack as before, whatever it does next.  Inside an array or an
object the finished items or members wait in the frame, the latest first.
-/

namespace TellerTerminal.Json.Node

def tokens : Node → List Token
  | null => [.null]
  | bool value => [.bool value]
  | number numeral => [.number numeral]
  | string parts => [.string parts]
  | array items => .openArray :: itemsTokens items ++ [.closeArray]
  | object members => .openObject :: membersTokens members ++ [.closeObject]
where
  itemsTokens : List Node → List Token
    | [] => []
    | [item] => tokens item
    | item :: rest => tokens item ++ .comma :: itemsTokens rest
  membersTokens : List (List StringPart × Node) → List Token
    | [] => []
    | [(name, value)] => .string name :: .colon :: tokens value
    | (name, value) :: rest =>
        .string name :: .colon :: tokens value ++ .comma :: membersTokens rest

theorem itemsTokens_cons_cons (item next : Node) (rest : List Node) :
    tokens.itemsTokens (item :: next :: rest) =
      item.tokens ++ .comma :: tokens.itemsTokens (next :: rest) := by
  rfl

theorem membersTokens_cons_cons (name : List StringPart) (value : Node)
    (next : List StringPart × Node) (rest : List (List StringPart × Node)) :
    tokens.membersTokens ((name, value) :: next :: rest) =
      .string name :: .colon :: value.tokens ++ .comma :: tokens.membersTokens (next :: rest) := by
  rfl

/-- No item starts as an empty array goes on. -/
theorem exists_itemsTokens_eq_cons (item : Node) (items : List Node) :
    ∃ token rest, tokens.itemsTokens (item :: items) = token :: rest ∧ token ≠ .closeArray := by
  have hitem : ∃ token rest, item.tokens = token :: rest ∧ token ≠ .closeArray := by
    cases item with
    | _ => exact ⟨_, _, by simp only [tokens, List.cons_append]; rfl, by simp⟩
  obtain ⟨token, rest, htokens, hne⟩ := hitem
  cases items with
  | nil => exact ⟨token, rest, htokens, hne⟩
  | cons next items =>
      exact ⟨token, _, by rw [itemsTokens_cons_cons, htokens, List.cons_append], hne⟩

namespace Machine

theorem run?_cons {machine next : Machine} {token : Token} (h : machine.step? token = some next)
    (rest : List Token) : machine.run? (token :: rest) = next.run? rest := by
  simp [run?, h]

/-- The first item of an array is taken like every other. -/
theorem run?_firstItem (stack : List Frame) (item : Node) (items : List Node)
    (rest : List Token) :
    run? ⟨stack, .firstItem⟩ (tokens.itemsTokens (item :: items) ++ rest) =
      run? ⟨stack, .value⟩ (tokens.itemsTokens (item :: items) ++ rest) := by
  obtain ⟨token, tail, htokens, hne⟩ := exists_itemsTokens_eq_cons item items
  rw [htokens, List.cons_append]
  cases token with
  | closeArray => exact absurd rfl hne
  | _ => rfl

/-- The first member of an object is taken like every other. -/
theorem run?_firstName (stack : List Frame) (member : List StringPart × Node)
    (members : List (List StringPart × Node)) (rest : List Token) :
    run? ⟨stack, .firstName⟩ (tokens.membersTokens (member :: members) ++ rest) =
      run? ⟨stack, .name []⟩ (tokens.membersTokens (member :: members) ++ rest) := by
  cases members with
  | nil => rfl
  | cons next members => rfl

mutual

/-- From where a value may start, the tokens of a node lead to where the node is complete. -/
theorem run?_tokens (stack : List Frame) (rest : List Token) (node : Node) :
    run? ⟨stack, .value⟩ (node.tokens ++ rest) = run? ⟨stack, .after node⟩ rest := by
  cases node with
  | null => rfl
  | bool value => rfl
  | number numeral => rfl
  | string parts => rfl
  | array items =>
      rw [tokens, List.append_assoc, List.cons_append]
      cases items with
      | nil => rfl
      | cons item items =>
          rw [run?_cons rfl, run?_firstItem]
          exact run?_items [] stack rest (item :: items) (by simp)
  | object members =>
      rw [tokens, List.append_assoc, List.cons_append]
      cases members with
      | nil => rfl
      | cons member members =>
          rw [run?_cons rfl, run?_firstName]
          exact run?_members [] stack rest (member :: members) (by simp)

theorem run?_items (done : List Node) (stack : List Frame) (rest : List Token) (items : List Node)
    (hne : items ≠ []) :
    run? ⟨.array done :: stack, .value⟩ (tokens.itemsTokens items ++ .closeArray :: rest) =
      run? ⟨stack, .after (.array (done.reverse ++ items))⟩ rest := by
  match items with
  | [] => exact absurd rfl hne
  | [item] =>
      rw [tokens.itemsTokens, run?_tokens, run?_cons rfl, List.reverse_cons]
  | item :: next :: items =>
      rw [itemsTokens_cons_cons, List.append_assoc, List.cons_append, run?_tokens, run?_cons rfl,
        run?_items _ _ _ (next :: items) (by simp), List.reverse_cons, List.append_assoc]
      rfl

theorem run?_members (done : List (List StringPart × Node)) (stack : List Frame)
    (rest : List Token) (members : List (List StringPart × Node)) (hne : members ≠ []) :
    run? ⟨stack, .name done⟩ (tokens.membersTokens members ++ .closeObject :: rest) =
      run? ⟨stack, .after (.object (done.reverse ++ members))⟩ rest := by
  match members with
  | [] => exact absurd rfl hne
  | [(name, value)] =>
      rw [tokens.membersTokens, List.cons_append, List.cons_append, run?_cons rfl, run?_cons rfl,
        run?_tokens, run?_cons rfl, List.reverse_cons]
  | (name, value) :: next :: members =>
      rw [membersTokens_cons_cons, List.append_assoc, List.cons_append, List.cons_append,
        run?_cons rfl, run?_cons rfl, List.cons_append, run?_tokens, run?_cons rfl,
        run?_members _ _ _ (next :: members) (by simp), List.reverse_cons, List.append_assoc]
      rfl

end

end Machine

/-- A node is read back from its tokens. -/
theorem ofTokens?_tokens (node : Node) : ofTokens? node.tokens = some node := by
  have hrun := Machine.run?_tokens [] [] node
  rw [List.append_nil] at hrun
  rw [ofTokens?, Machine.start, hrun]
  rfl

end TellerTerminal.Json.Node
