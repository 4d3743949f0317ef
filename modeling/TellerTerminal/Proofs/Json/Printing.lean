import TellerTerminal.Proofs.Json.Numbers
import TellerTerminal.Proofs.Json.Strings
import TellerTerminal.Proofs.Json.Structure

/-!
# Printed values read back

`Lexes text tokens` says that a text is read as these tokens in front of everything that cannot go
on with a number.  Both forms of a value lex as the tokens of its node: they differ in the space
between the tokens only.  Decimals are left out, for their literals may be any text.
-/

namespace TellerTerminal.Json

/-- The form in which a value is written.  A decimal has the form of its literal, or of a zero if
the literal is no number. -/
def node : Json → Node
  | null => .null
  | bool value => .bool value
  | integer value => .number (.ofInt value)
  | decimal literal => .number (((Numeral.read? literal.toList).map Prod.fst).getD (.ofInt 0))
  | string text => .string (StringPart.written text)
  | array items => .array (itemsNodes items)
  | object members => .object (membersNodes members)
where
  itemsNodes : List Json → List Node
    | [] => []
    | item :: rest => node item :: itemsNodes rest
  membersNodes : List (String × Json) → List (List StringPart × Node)
    | [] => []
    | (name, value) :: rest => (StringPart.written name, node value) :: membersNodes rest

/-- No decimal stands in the value. -/
inductive FloatFree : Json → Prop
  | null : FloatFree .null
  | bool (value : Bool) : FloatFree (.bool value)
  | integer (value : Int) : FloatFree (.integer value)
  | string (text : String) : FloatFree (.string text)
  | array {items : List Json} (h : ∀ item ∈ items, FloatFree item) : FloatFree (.array items)
  | object {members : List (String × Json)} (h : ∀ member ∈ members, FloatFree member.2) :
      FloatFree (.object members)

namespace Token

theorem next?_of_isSpace {c : Char} (h : isSpace c) (rest : List Char) :
    next? (c :: rest) = none := by
  have hc : c = ' ' ∨ c = '\n' ∨ c = '\t' ∨ c = '\r' := by simpa [isSpace, or_assoc] using h
  rcases hc with rfl | rfl | rfl | rfl
  · rfl
  · rfl
  · rfl
  · rfl

theorem all?_of_isSpace {c : Char} (h : isSpace c) (rest : List Char) :
    all? (c :: rest) = all? rest := by
  have hdrop : (c :: rest).dropWhile isSpace = rest.dropWhile isSpace := by simp [h]
  rw [all?.eq_def (c :: rest), all?.eq_def rest]
  generalize (c :: rest).dropWhile isSpace = chars at hdrop ⊢
  subst hdrop
  rfl

theorem all?_of_next? {chars rest : List Char} {token : Token}
    (h : next? chars = some (token, rest)) : all? chars = (all? rest).map (token :: ·) := by
  have hdrop : chars.dropWhile isSpace = chars ∧ chars ≠ [] := by
    cases chars with
    | nil => simp [next?, Numeral.read?, Numeral.unsigned?, Numeral.whole?, Numeral.digits?] at h
    | cons c tail =>
        cases hc : isSpace c with
        | false => simp [hc]
        | true => simp [next?_of_isSpace hc] at h
  rw [all?.eq_def]
  generalize chars.dropWhile isSpace = chars' at hdrop ⊢
  obtain ⟨rfl, hne⟩ := hdrop
  rw [if_neg (by simpa using hne)]
  split
  next h' => simp [h] at h'
  next token' rest' h' =>
    obtain ⟨rfl, rfl⟩ : token = token' ∧ rest = rest' := by simpa [h] using h'
    rfl

theorem all?_lineBreak (level : Nat) (rest : List Char) :
    all? (lineBreak level ++ rest) = all? rest := by
  have hspaces (n : Nat) : all? (List.replicate n ' ' ++ rest) = all? rest := by
    induction n with
    | zero => rfl
    | succ n ih => rw [List.replicate_succ, List.cons_append, all?_of_isSpace rfl, ih]
  rw [lineBreak, List.cons_append, all?_of_isSpace rfl, hspaces]

end Token

/-- `all` joins what `one` gives for each element by commas. -/
structure Joined {α γ : Type} (comma : γ) (one : α → List γ) (all : List α → List γ) : Prop where
  nil : all [] = []
  single : ∀ x, all [x] = one x
  cons : ∀ x y rest, all (x :: y :: rest) = one x ++ comma :: all (y :: rest)

/-- The text is read as these tokens, whatever follows that cannot go on with a number. -/
def Lexes (text : List Char) (tokens : List Token) : Prop :=
  ∀ rest, EndsNumber rest → Token.all? (text ++ rest) = (Token.all? rest).map (tokens ++ ·)

namespace Lexes

variable {text text' : List Char} {token : Token} {tokens tokens' : List Token}

theorem nil : Lexes [] [] := by
  intro rest _
  simp

theorem of_next? (h : ∀ rest, EndsNumber rest → Token.next? (text ++ rest) = some (token, rest)) :
    Lexes text [token] := by
  intro rest hrest
  rw [Token.all?_of_next? (h rest hrest)]
  rfl

/-- A character that is a token by itself is put in front. -/
theorem cons {c : Char} (hc : ∀ rest, Token.next? (c :: rest) = some (token, rest))
    (h : Lexes text tokens) : Lexes (c :: text) (token :: tokens) := by
  intro rest hrest
  rw [List.cons_append, Token.all?_of_next? (hc _), h rest hrest, Option.map_map]
  rfl

theorem lineBreak (level : Nat) (h : Lexes text tokens) :
    Lexes (Json.lineBreak level ++ text) tokens := by
  intro rest hrest
  rw [List.append_assoc, Token.all?_lineBreak, h rest hrest]

theorem space (h : Lexes text tokens) : Lexes (' ' :: text) tokens := by
  intro rest hrest
  rw [List.cons_append, Token.all?_of_isSpace rfl, h rest hrest]

theorem append (h : Lexes text tokens) (h' : Lexes text' tokens') (hends : EndsNumber text') :
    Lexes (text ++ text') (tokens ++ tokens') := by
  intro rest hrest
  have hends' : EndsNumber (text' ++ rest) := by
    cases text' with
    | nil => exact hrest
    | cons c chars => simpa using hends
  rw [List.append_assoc, h _ hends', h' rest hrest, Option.map_map]
  simp [Function.comp_def]

theorem quote (name : String) : Lexes (Json.quote name) [.string (StringPart.written name)] :=
  of_next? fun rest _ => Token.next?_quote name rest

theorem integerText (value : Int) : Lexes (Json.integerText value) [.number (.ofInt value)] :=
  of_next? fun _ hrest => Token.next?_integerText value hrest

/-- A text in brackets, where the last one may be on a line of its own. -/
theorem bracketed {first : Char} {last : List Char} {opening closing : Token}
    (h : Lexes text tokens)
    (hfirst : ∀ rest, Token.next? (first :: rest) = some (opening, rest))
    (hlast : Lexes last [closing]) (hends : EndsNumber last) :
    Lexes (first :: text ++ last) (opening :: tokens ++ [closing]) :=
  (h.append hlast hends).cons hfirst

/-- Texts that are joined by commas lex as their tokens joined by commas. -/
theorem joined {α : Type} {text : α → List Char} {tokens : α → List Token}
    {texts : List α → List Char} {lists : List α → List Token}
    (htexts : Joined ',' text texts) (hlists : Joined .comma tokens lists) {xs : List α}
    (h : ∀ x ∈ xs, Lexes (text x) (tokens x)) : Lexes (texts xs) (lists xs) := by
  induction xs with
  | nil =>
      rw [htexts.nil, hlists.nil]
      exact .nil
  | cons x rest ih =>
      obtain ⟨hx, hrest⟩ := List.forall_mem_cons.mp h
      cases rest with
      | nil =>
          rw [htexts.single, hlists.single]
          exact hx
      | cons y rest =>
          rw [htexts.cons, hlists.cons]
          exact hx.append ((ih hrest).cons fun _ => rfl) (by simp)

end Lexes

/-! ### The parts of arrays and objects -/

def memberTokens (member : String × Json) : List Token :=
  .string (StringPart.written member.1) :: .colon :: member.2.node.tokens

theorem joined_itemsTokens :
    Joined .comma (fun item : Json => item.node.tokens)
      fun items => Node.tokens.itemsTokens (node.itemsNodes items) :=
  ⟨rfl, fun _ => rfl, fun _ _ _ => rfl⟩

theorem joined_membersTokens :
    Joined .comma memberTokens fun members =>
      Node.tokens.membersTokens (node.membersNodes members) :=
  ⟨rfl, fun _ => rfl, fun _ _ _ => rfl⟩

theorem joined_compactItems : Joined ',' compact compact.compactItems :=
  ⟨rfl, fun _ => rfl, fun _ _ _ => rfl⟩

theorem joined_compactMembers :
    Joined ',' (fun member => quote member.1 ++ ':' :: member.2.compact)
      compact.compactMembers :=
  ⟨rfl, fun _ => rfl, fun _ _ _ => rfl⟩

theorem joined_prettyItems (level : Nat) :
    Joined ',' (fun item => lineBreak (level + 1) ++ item.prettyAt (level + 1))
      (prettyAt.prettyItems level) :=
  ⟨rfl, fun _ => rfl, fun _ _ _ => rfl⟩

theorem joined_prettyMembers (level : Nat) :
    Joined ','
      (fun member => lineBreak (level + 1) ++ quote member.1 ++ [':', ' '] ++
        member.2.prettyAt (level + 1))
      (prettyAt.prettyMembers level) :=
  ⟨rfl, fun _ => rfl, fun _ _ _ => rfl⟩

theorem Lexes.compactMember {member : String × Json}
    (h : Lexes member.2.compact member.2.node.tokens) :
    Lexes (Json.quote member.1 ++ ':' :: member.2.compact) (memberTokens member) :=
  (Lexes.quote member.1).append (h.cons fun _ => rfl) (by simp)

theorem Lexes.prettyMember (level : Nat) {member : String × Json}
    (h : Lexes (member.2.prettyAt (level + 1)) member.2.node.tokens) :
    Lexes (Json.lineBreak (level + 1) ++ Json.quote member.1 ++ [':', ' '] ++
      member.2.prettyAt (level + 1)) (memberTokens member) := by
  have hvalue : Lexes (':' :: ' ' :: member.2.prettyAt (level + 1))
      (.colon :: member.2.node.tokens) := h.space.cons fun _ => rfl
  have hline := ((Lexes.quote member.1).append hvalue (by simp)).lineBreak (level + 1)
  simpa [memberTokens] using hline

theorem Lexes.closingLine (level : Nat) {c : Char} {token : Token}
    (hc : ∀ rest, Token.next? (c :: rest) = some (token, rest)) :
    Lexes (Json.lineBreak level ++ [c]) [token] :=
  (Lexes.nil.cons hc).lineBreak level

theorem endsNumber_lineBreak (level : Nat) (rest : List Char) :
    EndsNumber (lineBreak level ++ rest) := by
  simp [lineBreak]

/-! ### The two forms -/

/-- The compact form is read as the tokens of the value. -/
theorem FloatFree.lexes_compact {value : Json} (h : value.FloatFree) :
    Lexes value.compact value.node.tokens := by
  induction h with
  | null => exact .of_next? fun _ _ => rfl
  | bool value =>
      cases value with
      | true => exact .of_next? fun _ _ => rfl
      | false => exact .of_next? fun _ _ => rfl
  | integer value => exact .integerText value
  | string text => exact .quote text
  | array _ ih =>
      have hitems := Lexes.joined joined_compactItems joined_itemsTokens ih
      exact hitems.bracketed (fun _ => rfl) (Lexes.nil.cons fun _ => rfl) (by simp)
  | object _ ih =>
      have hmembers := Lexes.joined joined_compactMembers joined_membersTokens
        fun member hmem => (ih member hmem).compactMember
      exact hmembers.bracketed (fun _ => rfl) (Lexes.nil.cons fun _ => rfl) (by simp)

/-- The pretty form is read as the tokens of the value, at every level. -/
theorem FloatFree.lexes_prettyAt {value : Json} (h : value.FloatFree) (level : Nat) :
    Lexes (value.prettyAt level) value.node.tokens := by
  induction h generalizing level with
  | null => exact FloatFree.null.lexes_compact
  | bool value => exact (FloatFree.bool value).lexes_compact
  | integer value => exact (FloatFree.integer value).lexes_compact
  | string text => exact (FloatFree.string text).lexes_compact
  | @array items h ih =>
      cases items with
      | nil => exact (FloatFree.array h).lexes_compact
      | cons item items =>
          have hitems := Lexes.joined (joined_prettyItems level) joined_itemsTokens
            fun item hmem => (ih item hmem (level + 1)).lineBreak (level + 1)
          rw [prettyAt, List.append_assoc]
          · exact hitems.bracketed (fun _ => rfl) (.closingLine level fun _ => rfl)
              (endsNumber_lineBreak level _)
          · simp
  | @object members h ih =>
      cases members with
      | nil => exact (FloatFree.object h).lexes_compact
      | cons member members =>
          have hmembers := Lexes.joined (joined_prettyMembers level) joined_membersTokens
            fun member hmem => (ih member hmem (level + 1)).prettyMember level
          rw [prettyAt, List.append_assoc]
          · exact hmembers.bracketed (fun _ => rfl) (.closingLine level fun _ => rfl)
              (endsNumber_lineBreak level _)
          · simp

/-! ### Reading the forms -/

theorem Node.ofText?_of_lexes {text : List Char} {node : Node} (h : Lexes text node.tokens) :
    Node.ofText? text = some node := by
  have hall := h [] endsNumber_nil
  have hnil : Token.all? [] = some [] := by simp [Token.all?]
  rw [List.append_nil, hnil, Option.map_some, List.append_nil] at hall
  rw [ofText?, hall, Option.bind_some, ofTokens?_tokens]

theorem FloatFree.ofText?_compact {value : Json} (h : value.FloatFree) :
    Node.ofText? value.compact = some value.node :=
  Node.ofText?_of_lexes h.lexes_compact

theorem FloatFree.ofText?_pretty {value : Json} (h : value.FloatFree) :
    Node.ofText? value.pretty = some value.node :=
  Node.ofText?_of_lexes (h.lexes_prettyAt 0)

end TellerTerminal.Json
