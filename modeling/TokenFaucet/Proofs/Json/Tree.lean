import TokenFaucet.Json.Reading
import TokenFaucet.Proofs.Json.FloatText
import TokenFaucet.Proofs.Json.Quoted

set_option autoImplicit false

namespace TokenFaucet.Json

/-- What the text of a number is read as. -/
def Number.written (n : Number) : Node :=
  match NumberText.read? n.chars with
  | some (t, _) => .number t.number?
  | none => .null

mutual

/-- What the text of a value is read as. -/
def written : Json → Node
  | .null => .null
  | .bool b => .bool b
  | .number n => n.written
  | .string s => .string (some s)
  | .array items => .array (writtenItems items) true
  | .object members => .object (writtenMembers members) true

def writtenItems : List Json → List Node
  | [] => []
  | item :: rest => written item :: writtenItems rest

def writtenMembers : List (String × Json) → List (Option String × Node)
  | [] => []
  | (name, value) :: rest => (some name, written value) :: writtenMembers rest

end

theorem written_natural {n : Nat} (small : n < UInt64.size) :
    (Json.number (.integer n)).written = .number (some (.integer n)) := by
  have positive : decide ((n : Int) < 0) = false := decide_eq_false (by omega)
  have read := NumberText.read?_integerText n
  rw [positive, Int.natAbs_natCast] at read
  rw [written, Number.written, Number.chars, read]
  exact congrArg Node.number (NumberText.number?_toDigits small)

namespace Node

open NumberText (Ends ends_cons ends_nil)

theorem skipSpace_cons {c : Char} (noSpace : isSpace c = false) (rest : List Char) :
    skipSpace (c :: rest) = c :: rest := by
  simp [skipSpace, noSpace]

/-- Nothing but the spaces of a JSON text. -/
def Spaces (cs : List Char) : Prop :=
  ∀ c ∈ cs, isSpace c = true

theorem spaces_nil : Spaces [] :=
  List.forall_mem_nil _

theorem skipSpace_append {spaces : List Char} (space : Spaces spaces) (rest : List Char) :
    skipSpace (spaces ++ rest) = skipSpace rest :=
  List.dropWhile_append_of_pos space

theorem value_literal {cs rest : List Char} {t : NumberText}
    (read : NumberText.read? cs = some (t, [])) (ends : Ends rest) (fuel : Nat) :
    value (fuel + 1) (cs ++ rest) = (.number t.number?, some rest) := by
  obtain ⟨c, after, rfl, head⟩ := NumberText.head_of_read? read
  have whole := NumberText.read?_append read ends
  have other : ∀ d, d.isDigit = false → d ≠ '-' → c ≠ d := by
    rintro d noDigit noMinus rfl
    obtain rfl | digit := head
    · exact noMinus rfl
    · rw [digit] at noDigit
      cases noDigit
  have noSpace : isSpace c = false := by
    simp only [isSpace, Bool.or_eq_false_iff, beq_eq_false_iff_ne]
    exact ⟨⟨⟨other _ rfl (by decide), other _ rfl (by decide)⟩, other _ rfl (by decide)⟩,
      other _ rfl (by decide)⟩
  rw [List.cons_append] at whole ⊢
  unfold value
  rw [skipSpace_cons noSpace]
  split
  · next same => exact absurd (List.cons.inj same).1 (other _ rfl (by decide))
  · next same => exact absurd (List.cons.inj same).1 (other _ rfl (by decide))
  · next same => exact absurd (List.cons.inj same).1 (other _ rfl (by decide))
  · next same => exact absurd (List.cons.inj same).1 (other _ rfl (by decide))
  · next same => exact absurd (List.cons.inj same).1 (other _ rfl (by decide))
  · next same => exact absurd (List.cons.inj same).1 (other _ rfl (by decide))
  · rw [whole]
    rfl

theorem number_cases (n : Number) :
    (∃ t, NumberText.read? n.chars = some (t, [])) ∨ n.chars = "null".toList := by
  cases n with
  | integer i => exact .inl ⟨_, NumberText.read?_integerText i⟩
  | float x =>
      by_cases finite : x.isFinite = true
      · have chars : (Number.float x).chars = Number.DecimalLayout.json.characters x := if_pos finite
        rw [chars]
        exact .inl ⟨_, NumberText.read?_characters x⟩
      · exact .inr (if_neg finite)

theorem value_number (n : Number) {rest : List Char} (ends : Ends rest) (fuel : Nat) :
    value (fuel + 1) (n.chars ++ rest) = (n.written, some rest) := by
  obtain ⟨t, read⟩ | word := number_cases n
  · rw [value_literal read ends, Number.written, read]
  · rw [Number.written, word]
    rfl

theorem value_quote (fuel : Nat) (cs : List Char) :
    value (fuel + 1) ('"' :: cs) =
      match Quoted.decode cs with
      | some (chars, rest) => (.string (chars.map String.ofList), some rest)
      | none => (.fault, none) := rfl

/-- The items of an array that is not empty. -/
theorem value_bracket {c : Char} {cs more : List Char} (front : skipSpace cs = c :: more)
    (other : c ≠ ']') (fuel : Nat) :
    value (fuel + 1) ('[' :: cs) =
      (.array (items fuel (c :: more)).1 (items fuel (c :: more)).2.isSome,
        (items fuel (c :: more)).2) := by
  have bracket : isSpace '[' = false := rfl
  rw [value, skipSpace_cons bracket]
  simp only [front]
  split
  · next same => exact absurd (List.cons.inj same).1 other
  · rfl

/-- The members of an object that is not empty. -/
theorem value_brace (fuel : Nat) (cs : List Char) :
    value (fuel + 1) ('\x7b' :: '"' :: cs) =
      (.object (members fuel ('"' :: cs)).1 (members fuel ('"' :: cs)).2.isSome,
        (members fuel ('"' :: cs)).2) := rfl

/-- The last item of an array, with spaces behind it. -/
theorem items_last {fuel : Nat} {cs after rest : List Char} {node : Node} (space : Spaces after)
    (read : value fuel cs = (node, some (after ++ ']' :: rest))) :
    items (fuel + 1) cs = ([node], some rest) := by
  have bracket : isSpace ']' = false := rfl
  rw [items, read]
  dsimp only
  rw [skipSpace_append space, skipSpace_cons bracket]
  rfl

/-- An item of an array before others, with spaces behind it. -/
theorem items_next {fuel : Nat} {cs after others more : List Char} {node : Node} {c : Char}
    (space : Spaces after) (read : value fuel cs = (node, some (after ++ ',' :: others)))
    (front : skipSpace others = c :: more) (other : c ≠ ']') :
    items (fuel + 1) cs = (node :: (items fuel (c :: more)).1, (items fuel (c :: more)).2) := by
  have comma : isSpace ',' = false := rfl
  rw [items, read]
  dsimp only
  rw [skipSpace_append space, skipSpace_cons comma]
  simp only [front]
  split
  · next same => exact absurd (List.cons.inj same).1 other
  · rfl

/-- The name of a member is read before its value. -/
theorem encode_member (name : String) (cs : List Char) :
    ∃ quoted, Quoted.encode name.toList ++ ':' :: cs = '"' :: quoted ∧
      Quoted.decode quoted = some (some name.toList, ':' :: cs) := by
  rw [Quoted.encode, List.cons_append, List.cons_append, List.append_assoc, List.singleton_append]
  exact ⟨_, rfl, Quoted.decode_encode name.toList (':' :: cs)⟩

/-- The last member of an object. -/
theorem members_last (fuel : Nat) (name : String) {cs rest : List Char} {node : Node}
    (read : value fuel cs = (node, some ('\x7d' :: rest))) :
    members (fuel + 1) (Quoted.encode name.toList ++ ':' :: cs) =
      ([(some name, node)], some rest) := by
  obtain ⟨quoted, text, decoded⟩ := encode_member name cs
  have quote : isSpace '"' = false := rfl
  have colon : isSpace ':' = false := rfl
  have brace : isSpace '\x7d' = false := rfl
  rw [text, members, skipSpace_cons quote]
  simp only [decoded, skipSpace_cons colon, read, skipSpace_cons brace, Option.map_some,
    String.ofList_toList]

/-- A member of an object before others. -/
theorem members_next (fuel : Nat) (name : String) {cs rest : List Char} {node : Node}
    (read : value fuel cs = (node, some (',' :: rest))) :
    members (fuel + 1) (Quoted.encode name.toList ++ ':' :: cs) =
      ((some name, node) :: (members fuel rest).1, (members fuel rest).2) := by
  obtain ⟨quoted, text, decoded⟩ := encode_member name cs
  have quote : isSpace '"' = false := rfl
  have colon : isSpace ':' = false := rfl
  have comma : isSpace ',' = false := rfl
  rw [text, members, skipSpace_cons quote]
  simp only [decoded, skipSpace_cons colon, read, skipSpace_cons comma, Option.map_some,
    String.ofList_toList]

theorem value_string (s : String) (rest : List Char) (fuel : Nat) :
    value (fuel + 1) (Quoted.encode s.toList ++ rest) = (.string (some s), some rest) := by
  have read := Quoted.decode_encode s.toList rest
  rw [Quoted.encode, List.cons_append, List.cons_append, List.append_assoc, List.singleton_append,
    value_quote, read]
  simp only [Option.map_some, String.ofList_toList]

/-- The first character of a value's text: no blank, and no bracket that closes. -/
theorem chars_head (j : Json) : ∃ c after, j.chars = c :: after ∧ isSpace c = false ∧ c ≠ ']' := by
  match j with
  | .null => exact ⟨_, _, rfl, rfl, by decide⟩
  | .bool true => exact ⟨_, _, rfl, rfl, by decide⟩
  | .bool false => exact ⟨_, _, rfl, rfl, by decide⟩
  | .string s => exact ⟨_, _, rfl, rfl, by decide⟩
  | .array items => exact ⟨_, _, rfl, rfl, by decide⟩
  | .object members => exact ⟨_, _, rfl, rfl, by decide⟩
  | .number n =>
      rw [chars]
      obtain ⟨t, read⟩ | word := number_cases n
      · obtain ⟨c, after, same, head⟩ := NumberText.head_of_read? read
        refine ⟨c, after, same, ?_⟩
        obtain rfl | digit := head
        · exact ⟨rfl, by decide⟩
        · have other : ∀ d, d.isDigit = false → c ≠ d := by
            rintro d noDigit rfl
            rw [digit] at noDigit
            cases noDigit
          simp only [isSpace, Bool.or_eq_false_iff, beq_eq_false_iff_ne]
          exact ⟨⟨⟨⟨other _ rfl, other _ rfl⟩, other _ rfl⟩, other _ rfl⟩, other _ rfl⟩
      · rw [word]
        exact ⟨_, _, rfl, rfl, by decide⟩

theorem itemChars_cons (item next : Json) (rest : List Json) :
    itemChars (item :: next :: rest) = item.chars ++ ',' :: itemChars (next :: rest) := by
  rw [itemChars]
  exact List.cons_ne_nil _ _

theorem memberChars_cons (name : String) (value : Json) (next : String × Json)
    (rest : List (String × Json)) :
    memberChars ((name, value) :: next :: rest) =
      Quoted.encode name.toList ++ ':' :: value.chars ++ ',' :: memberChars (next :: rest) := by
  rw [memberChars]
  exact List.cons_ne_nil _ _

theorem memberChars_head {members : List (String × Json)} (some_ : members ≠ []) :
    ∃ after, memberChars members = '"' :: after := by
  match members with
  | [] => exact absurd rfl some_
  | [(name, value)] => exact ⟨_, rfl⟩
  | (name, value) :: next :: rest =>
      rw [memberChars_cons]
      exact ⟨_, rfl⟩

theorem itemChars_head {items : List Json} (some_ : items ≠ []) :
    ∃ c after, itemChars items = c :: after ∧ isSpace c = false ∧ c ≠ ']' := by
  match items with
  | [] => exact absurd rfl some_
  | [item] => exact chars_head item
  | item :: next :: rest =>
      obtain ⟨c, after, same, noSpace, open_⟩ := chars_head item
      refine ⟨c, after ++ ',' :: itemChars (next :: rest), ?_, noSpace, open_⟩
      rw [itemChars_cons, same]
      rfl

mutual

/-- A value's text is read as the value's tree, whatever follows that does not go on with a number. -/
theorem value_chars (j : Json) {rest : List Char} (ends : Ends rest) (fuel : Nat)
    (enough : 2 * j.chars.length ≤ fuel + 1) :
    value fuel (j.chars ++ rest) = (j.written, some rest) := by
  obtain ⟨c, after, head, -, -⟩ := chars_head j
  have pos : 0 < j.chars.length := by
    rw [head]
    exact Nat.succ_pos _
  obtain ⟨fuel, rfl⟩ := Nat.exists_eq_add_one_of_ne_zero (show fuel ≠ 0 by omega)
  match j with
  | .null => rfl
  | .bool true => rfl
  | .bool false => rfl
  | .number n =>
      rw [chars, written]
      exact value_number n ends fuel
  | .string s =>
      rw [chars, written]
      exact value_string s rest fuel
  | .array [] => rfl
  | .object [] => rfl
  | .array (item :: items) =>
      obtain ⟨c, after, front, noSpace, open_⟩ := itemChars_head (List.cons_ne_nil item items)
      rw [chars, List.length_append, List.length_cons] at enough
      have read := items_chars (item :: items) (List.cons_ne_nil item items) rest fuel (by omega)
      rw [front, List.cons_append] at read
      rw [chars, written, List.cons_append, List.cons_append, List.append_assoc,
        List.singleton_append, front, List.cons_append, value_bracket (skipSpace_cons noSpace _) open_, read]
      rfl
  | .object (member :: members) =>
      obtain ⟨after, front⟩ := memberChars_head (List.cons_ne_nil member members)
      rw [chars, List.length_append, List.length_cons] at enough
      have read := members_chars (member :: members) (List.cons_ne_nil member members) rest fuel
        (by omega)
      rw [front, List.cons_append] at read
      rw [chars, written, List.cons_append, List.cons_append, List.append_assoc,
        List.singleton_append, front, List.cons_append, value_brace, read]
      rfl

theorem items_chars (list : List Json) (some_ : list ≠ []) (rest : List Char) (fuel : Nat)
    (enough : 2 * (itemChars list).length ≤ fuel) :
    items fuel (itemChars list ++ ']' :: rest) = (writtenItems list, some rest) := by
  obtain ⟨c, after, head, -, -⟩ := itemChars_head some_
  have pos : 0 < (itemChars list).length := by
    rw [head]
    exact Nat.succ_pos _
  obtain ⟨fuel, rfl⟩ := Nat.exists_eq_add_one_of_ne_zero (show fuel ≠ 0 by omega)
  match list with
  | [] => exact absurd rfl some_
  | [item] =>
      rw [itemChars] at enough ⊢
      have ends : Ends (']' :: rest) :=
        ends_cons rest rfl (by decide) (by decide) (by decide)
      exact items_last spaces_nil (value_chars item ends fuel (by omega))
  | item :: next :: more =>
      obtain ⟨c, after, front, noSpace, open_⟩ := itemChars_head (List.cons_ne_nil next more)
      have ends : Ends (',' :: c :: (after ++ ']' :: rest)) :=
        ends_cons _ rfl (by decide) (by decide) (by decide)
      rw [itemChars_cons, List.length_append, List.length_cons] at enough
      have read := value_chars item ends fuel (by omega)
      have others := items_chars (next :: more) (List.cons_ne_nil next more) rest fuel (by omega)
      rw [front, List.cons_append] at others
      rw [itemChars_cons, List.append_assoc, List.cons_append, front, List.cons_append,
        items_next spaces_nil read (skipSpace_cons noSpace _) open_, others]
      rfl

theorem members_chars (list : List (String × Json)) (some_ : list ≠ []) (rest : List Char)
    (fuel : Nat) (enough : 2 * (memberChars list).length ≤ fuel) :
    members fuel (memberChars list ++ '\x7d' :: rest) = (writtenMembers list, some rest) := by
  obtain ⟨after, head⟩ := memberChars_head some_
  have pos : 0 < (memberChars list).length := by
    rw [head]
    exact Nat.succ_pos _
  obtain ⟨fuel, rfl⟩ := Nat.exists_eq_add_one_of_ne_zero (show fuel ≠ 0 by omega)
  match list with
  | [] => exact absurd rfl some_
  | [(name, value)] =>
      have ends : Ends ('\x7d' :: rest) :=
        ends_cons rest rfl (by decide) (by decide) (by decide)
      rw [memberChars, List.length_append, List.length_cons] at enough
      have read := value_chars value ends fuel (by omega)
      rw [memberChars, List.append_assoc, List.cons_append, members_last fuel name read,
        writtenMembers, writtenMembers]
  | (name, value) :: next :: more =>
      have ends : Ends (',' :: (memberChars (next :: more) ++ '\x7d' :: rest)) :=
        ends_cons _ rfl (by decide) (by decide) (by decide)
      rw [memberChars_cons, List.length_append, List.length_append, List.length_cons,
        List.length_cons] at enough
      have read := value_chars value ends fuel (by omega)
      have others := members_chars (next :: more) (List.cons_ne_nil next more) rest fuel (by omega)
      rw [memberChars_cons, List.append_assoc, List.append_assoc, List.cons_append,
        List.cons_append, members_next fuel name read, others]
      rfl

end

/-- The text of a value is read as the value's tree, to its end. -/
theorem document_render (j : Json) : document j.render = ⟨j.written, true⟩ := by
  have read := value_chars j NumberText.ends_nil (2 * j.chars.length + 2) (by omega)
  rw [List.append_nil] at read
  unfold document
  rw [render, String.toList_ofList]
  dsimp only
  rw [read]
  rfl

end Node

/-- Reading the text of a value is reading the tree that the text is read as. -/
theorem readText_render {α : Type} (reading : Reading α) {j : Json} {a : α}
    (read : reading j.written = .ok a) : readText reading j.render = .ok a := by
  unfold readText
  rw [Node.document_render]
  dsimp only
  rw [read]
  rfl

end TokenFaucet.Json
