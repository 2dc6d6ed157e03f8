import ObjectGraph.Proofs.Json.Token

/-!
# Compact texts of JSON values

`Value.tree?` is the tree that the compact text of a value says, and reading the text gives that tree,
whatever spaces stand around it.  The reader is given more fuel than the text has characters; since
every token is at least one character long, it does not run out.

* `readTree_chars`: a value at the front of a text is read.
* `Tree.read?_compact`: a compact text is read as a whole.
-/

namespace ObjectGraph.Json

open Text (isDigit)

/-! ## Values -/

mutual

/-- The tree that the text of a value says, if no number in it has a sign, a point or an exponent. -/
def Value.tree? : Value → Option Tree
  | .null => some .null
  | .bool b => some (.bool b)
  | .number (.unsigned n) => some (.number (.ofNat n.toNat))
  | .number _ => none
  | .string s => some (.string (some s))
  | .array items => (itemTrees? items).map .array
  | .object members => (memberTrees? members).map .object

def Value.itemTrees? : List Value → Option (List Tree)
  | [] => some []
  | item :: items => do
    let tree ← item.tree?
    let trees ← itemTrees? items
    return tree :: trees

def Value.memberTrees? : List (String × Value) → Option (List (Option String × Tree))
  | [] => some []
  | (name, value) :: rest => do
    let tree ← value.tree?
    let trees ← memberTrees? rest
    return (some name, tree) :: trees

end

section Values

variable {v : Value} {tree : Tree} {trees : List Tree} {members : List (Option String × Tree)}
  {name : String} {cs behind rest : List Char} {fuel : Nat}

theorem isSpace_of_isDigit {c : Char} (digit : isDigit c = true) : isSpace c = false := by
  have blank := Text.ne_of_isDigit digit (d := ' ') rfl
  have newline := Text.ne_of_isDigit digit (d := '\n') rfl
  have tab := Text.ne_of_isDigit digit (d := '\t') rfl
  have carriage := Text.ne_of_isDigit digit (d := '\r') rfl
  simp [isSpace, blank, newline, tab, carriage]

/-- The text of a value starts with neither a space nor a closing bracket. -/
theorem Value.exists_chars_eq_cons (plain : v.tree? = some tree) :
    ∃ c cs, v.chars = c :: cs ∧ isSpace c = false ∧ c ≠ ']' := by
  cases v with
  | null => exact ⟨_, _, rfl, rfl, by decide⟩
  | bool b => cases b <;> exact ⟨_, _, rfl, rfl, by decide⟩
  | number n =>
    cases n with
    | unsigned n =>
      obtain ⟨first, others, written, digit, -⟩ := Text.exists_toDigits_eq_cons n.toNat
      exact ⟨first, others, written, isSpace_of_isDigit digit, Text.ne_of_isDigit digit rfl⟩
    | negative | real => cases plain
  | string | array | object => exact ⟨_, _, rfl, rfl, by decide⟩

theorem skipSpaces_cons {c : Char} (token : isSpace c = false) : skipSpaces (c :: cs) = c :: cs :=
  List.dropWhile_cons_of_neg (by simp [token])

theorem stringChars_append (s : String) (rest : List Char) :
    Value.stringChars s ++ rest = '"' :: (s.toList.flatMap Value.escapeChar ++ '"' :: rest) := by
  simp [Value.stringChars]

theorem readTree_string (s : String) (rest : List Char) :
    readTree (fuel + 1) (Value.stringChars s ++ rest) = some (.string (some s), rest) := by
  obtain ⟨pieces, read, text⟩ := exists_pieces s rest
  rw [stringChars_append, readTree, skipSpaces_cons rfl]
  dsimp only
  rw [if_pos rfl, read, ← text]
  rfl

theorem readTree_number (n : Nat) (ends : NumeralEnds rest) :
    readTree (fuel + 1) (Nat.toDigits 10 n ++ rest) = some (.number (.ofNat n), rest) := by
  obtain ⟨first, others, written, digit, -⟩ := Text.exists_toDigits_eq_cons n
  have read := readNumber_toDigits n ends
  rw [written, List.cons_append] at read ⊢
  rw [readTree, skipSpaces_cons (isSpace_of_isDigit digit)]
  dsimp only
  rw [if_neg (Text.ne_of_isDigit digit rfl), if_neg (Text.ne_of_isDigit digit rfl),
    if_neg (Text.ne_of_isDigit digit rfl), if_neg (Text.ne_of_isDigit digit rfl),
    if_neg (Text.ne_of_isDigit digit rfl), if_neg (Text.ne_of_isDigit digit rfl), read]
  rfl

theorem readTree_array {c : Char} (token : isSpace c = false) (item : c ≠ ']')
    (read : readItems fuel (c :: cs) = some (trees, rest)) :
    readTree (fuel + 1) ('[' :: c :: cs) = some (.array trees, rest) := by
  rw [readTree, skipSpaces_cons rfl]
  dsimp only
  rw [if_neg (by decide), if_pos rfl, skipSpaces_cons token]
  split
  · next close => exact absurd (List.cons.inj close).1 item
  · rw [read]
    rfl

theorem readItems_last (read : readTree fuel cs = some (tree, ']' :: rest)) :
    readItems (fuel + 1) cs = some ([tree], rest) := by
  rw [readItems, read]
  rfl

theorem readItems_next (read : readTree fuel cs = some (tree, ',' :: behind))
    (others : readItems fuel behind = some (trees, rest)) :
    readItems (fuel + 1) cs = some (tree :: trees, rest) := by
  rw [readItems, read]
  show (readItems fuel behind).bind _ = _
  rw [others]
  rfl

theorem readTree_object (read : readMembers fuel ('"' :: cs) = some (members, rest)) :
    readTree (fuel + 1) ('\x7b' :: '"' :: cs) = some (.object members, rest) := by
  rw [readTree, skipSpaces_cons rfl]
  dsimp only
  rw [if_neg (by decide), if_neg (by decide), if_pos rfl, skipSpaces_cons rfl]
  show (readMembers fuel _).bind _ = _
  rw [read]
  rfl

theorem readMembers_last (read : readTree fuel cs = some (tree, '\x7d' :: rest)) :
    readMembers (fuel + 1) (Value.stringChars name ++ ':' :: cs) =
      some ([(some name, tree)], rest) := by
  obtain ⟨pieces, readName, text⟩ := exists_pieces name (':' :: cs)
  rw [stringChars_append, readMembers, skipSpaces_cons rfl]
  show (readPieces _).bind _ = _
  rw [readName]
  show (readTree fuel cs).bind _ = _
  rw [read, ← text]
  rfl

theorem readMembers_next (read : readTree fuel cs = some (tree, ',' :: behind))
    (others : readMembers fuel behind = some (members, rest)) :
    readMembers (fuel + 1) (Value.stringChars name ++ ':' :: cs) =
      some ((some name, tree) :: members, rest) := by
  obtain ⟨pieces, readName, text⟩ := exists_pieces name (':' :: cs)
  rw [stringChars_append, readMembers, skipSpaces_cons rfl]
  show (readPieces _).bind _ = _
  rw [readName]
  show (readTree fuel cs).bind _ = _
  rw [read]
  show (readMembers fuel behind).bind _ = _
  rw [others, ← text]
  rfl

/-! ### Whole values -/

theorem Value.exists_of_itemTrees? {item : Value} {items : List Value}
    (plain : itemTrees? (item :: items) = some trees) :
    ∃ tree others, item.tree? = some tree ∧ itemTrees? items = some others ∧
      trees = tree :: others := by
  obtain ⟨tree, first, plain⟩ := Option.bind_eq_some_iff.1 plain
  obtain ⟨others, rest, made⟩ := Option.bind_eq_some_iff.1 plain
  cases made
  exact ⟨tree, others, first, rest, rfl⟩

theorem Value.exists_of_memberTrees? {value : Value} {others : List (String × Value)}
    (plain : memberTrees? ((name, value) :: others) = some members) :
    ∃ tree rest, value.tree? = some tree ∧ memberTrees? others = some rest ∧
      members = (some name, tree) :: rest := by
  obtain ⟨tree, first, plain⟩ := Option.bind_eq_some_iff.1 plain
  obtain ⟨rest, later, made⟩ := Option.bind_eq_some_iff.1 plain
  cases made
  exact ⟨tree, rest, first, later, rfl⟩

theorem Value.itemChars_cons_cons (first second : Value) (items : List Value) :
    itemChars (first :: second :: items) = first.chars ++ ',' :: itemChars (second :: items) := by
  rw [itemChars]
  exact List.cons_ne_nil second items

theorem Value.memberChars_cons_cons (value : Value) (second : String × Value)
    (members : List (String × Value)) :
    memberChars ((name, value) :: second :: members) =
      stringChars name ++ ':' :: (value.chars ++ ',' :: memberChars (second :: members)) := by
  rw [memberChars, List.append_assoc, List.cons_append]
  exact List.cons_ne_nil second members

theorem Value.exists_itemChars_eq_cons {item : Value} (plain : item.tree? = some tree)
    (items : List Value) :
    ∃ c cs, itemChars (item :: items) = c :: cs ∧ isSpace c = false ∧ c ≠ ']' := by
  obtain ⟨c, cs, written, token, item⟩ := exists_chars_eq_cons plain
  cases items with
  | nil => exact ⟨c, cs, written, token, item⟩
  | cons => exact ⟨c, _, by rw [itemChars_cons_cons, written]; rfl, token, item⟩

theorem Value.exists_memberChars_eq_cons (member : String × Value)
    (members : List (String × Value)) : ∃ cs, memberChars (member :: members) = '"' :: cs := by
  obtain ⟨name, value⟩ := member
  cases members with
  | nil => exact ⟨_, rfl⟩
  | cons => exact ⟨_, by rw [memberChars_cons_cons]; rfl⟩

-- The induction is on the value.  Of the fuel, two units are there for each character of the text, and
-- one more for each list, so a value behind a comma, a colon or a bracket has enough.
mutual

/-- A value at the front of a text is read, and nothing of the rest is. -/
theorem readTree_chars (v : Value) {tree : Tree} {rest : List Char} {fuel : Nat}
    (plain : v.tree? = some tree) (enough : 2 * v.chars.length ≤ fuel) (ends : NumeralEnds rest) :
    readTree fuel (v.chars ++ rest) = some (tree, rest) := by
  obtain ⟨c, cs, written, -, -⟩ := Value.exists_chars_eq_cons plain
  obtain ⟨fuel, rfl⟩ := Nat.exists_eq_succ_of_ne_zero (show fuel ≠ 0 by
    rw [written, List.length_cons] at enough
    omega)
  cases v with
  | null =>
    cases plain
    rfl
  | bool b =>
    cases plain
    cases b <;> rfl
  | number n =>
    cases n with
    | unsigned n =>
      cases plain
      exact readTree_number n.toNat ends
    | negative | real => cases plain
  | string s =>
    cases plain
    exact readTree_string s rest
  | array items =>
    obtain ⟨trees, each, rfl⟩ := Option.map_eq_some_iff.1 plain
    cases items with
    | nil =>
      cases each
      rfl
    | cons item items =>
      have read : readItems fuel (Value.itemChars (item :: items) ++ ']' :: rest) =
          some (trees, rest) := by
        refine readItems_itemChars (item :: items) (List.cons_ne_nil _ _) each ?_
        simp only [Value.chars, List.length_cons, List.length_append] at enough
        omega
      obtain ⟨tree, -, first, -, -⟩ := Value.exists_of_itemTrees? each
      obtain ⟨c, cs, written, token, other⟩ := Value.exists_itemChars_eq_cons first items
      rw [written] at read
      rw [Value.chars, written, List.append_assoc]
      exact readTree_array token other read
  | object members =>
    obtain ⟨trees, each, rfl⟩ := Option.map_eq_some_iff.1 plain
    cases members with
    | nil =>
      cases each
      rfl
    | cons member members =>
      have read : readMembers fuel (Value.memberChars (member :: members) ++ '\x7d' :: rest) =
          some (trees, rest) := by
        refine readMembers_memberChars (member :: members) (List.cons_ne_nil _ _) each ?_
        simp only [Value.chars, List.length_cons, List.length_append] at enough
        omega
      obtain ⟨cs, written⟩ := Value.exists_memberChars_eq_cons member members
      rw [written] at read
      rw [Value.chars, written, List.append_assoc]
      exact readTree_object read

theorem readItems_itemChars (items : List Value) {trees : List Tree}
    {rest : List Char} {fuel : Nat} (nonempty : items ≠ [])
    (plain : Value.itemTrees? items = some trees)
    (enough : 2 * (Value.itemChars items).length + 1 ≤ fuel) :
    readItems fuel (Value.itemChars items ++ ']' :: rest) = some (trees, rest) := by
  obtain ⟨fuel, rfl⟩ := Nat.exists_eq_succ_of_ne_zero (show fuel ≠ 0 by omega)
  match items, nonempty with
  | [item], _ =>
    obtain ⟨tree, others, first, none, rfl⟩ := Value.exists_of_itemTrees? plain
    cases none
    have read : readTree fuel (item.chars ++ ']' :: rest) = some (tree, ']' :: rest) := by
      refine readTree_chars item first ?_ (numeralEnds_cons (by decide))
      simp only [Value.itemChars] at enough
      omega
    exact readItems_last read
  | item :: second :: items, _ =>
    obtain ⟨tree, others, first, later, rfl⟩ := Value.exists_of_itemTrees? plain
    rw [Value.itemChars_cons_cons, List.length_append, List.length_cons] at enough
    rw [Value.itemChars_cons_cons, List.append_assoc, List.cons_append]
    exact readItems_next
      (readTree_chars item first (by omega) (numeralEnds_cons (by decide)))
      (readItems_itemChars (second :: items) (List.cons_ne_nil _ _) later (by omega))

theorem readMembers_memberChars (members : List (String × Value))
    {trees : List (Option String × Tree)} {rest : List Char} {fuel : Nat} (nonempty : members ≠ [])
    (plain : Value.memberTrees? members = some trees)
    (enough : 2 * (Value.memberChars members).length + 1 ≤ fuel) :
    readMembers fuel (Value.memberChars members ++ '\x7d' :: rest) = some (trees, rest) := by
  obtain ⟨fuel, rfl⟩ := Nat.exists_eq_succ_of_ne_zero (show fuel ≠ 0 by omega)
  match members, nonempty with
  | [(name, value)], _ =>
    obtain ⟨tree, others, first, none, rfl⟩ := Value.exists_of_memberTrees? plain
    cases none
    have read : readTree fuel (value.chars ++ '\x7d' :: rest) = some (tree, '\x7d' :: rest) := by
      refine readTree_chars value first ?_ (numeralEnds_cons (by decide))
      simp only [Value.memberChars, List.length_append, List.length_cons] at enough
      omega
    rw [Value.memberChars, List.append_assoc, List.cons_append]
    exact readMembers_last read
  | (name, value) :: second :: members, _ =>
    obtain ⟨tree, others, first, later, rfl⟩ := Value.exists_of_memberTrees? plain
    rw [Value.memberChars_cons_cons] at enough ⊢
    simp only [List.length_append, List.length_cons] at enough
    rw [List.append_assoc, List.cons_append, List.append_assoc, List.cons_append]
    exact readMembers_next
      (readTree_chars value first (by omega) (numeralEnds_cons (by decide)))
      (readMembers_memberChars (second :: members) (List.cons_ne_nil _ _) later (by omega))

end

/-! ### Whole texts -/

theorem readTree_spaces {before : List Char} (spaces : ∀ c ∈ before, isSpace c = true)
    (fuel : Nat) (cs : List Char) : readTree fuel (before ++ cs) = readTree fuel cs := by
  have skipped : skipSpaces (before ++ cs) = skipSpaces cs := List.dropWhile_append_of_pos spaces
  cases fuel with
  | zero => rfl
  | succ fuel => rw [readTree, readTree, skipped]

/-- A compact text is read as a whole, also with spaces around it. -/
theorem Tree.ofChars?_framed {before after : List Char} (plain : v.tree? = some tree)
    (spacesBefore : ∀ c ∈ before, isSpace c = true) (spacesAfter : ∀ c ∈ after, isSpace c = true) :
    Tree.ofChars? (before ++ (v.chars ++ after)) = some tree := by
  have read : readTree (2 * (before ++ (v.chars ++ after)).length + 1) (v.chars ++ after) =
      some (tree, after) := by
    refine readTree_chars v plain ?_ (numeralEnds_of_spaces spacesAfter)
    simp only [List.length_append]
    omega
  have done : skipSpaces after = [] := List.dropWhile_eq_nil_iff.2 spacesAfter
  rw [Tree.ofChars?, readTree_spaces spacesBefore, read]
  show (if (skipSpaces after).isEmpty then some tree else none) = some tree
  rw [done]
  rfl

/-- **The compact text of a value says the tree of the value.** -/
theorem Tree.read?_compact (plain : v.tree? = some tree) : Tree.read? v.compact = some tree := by
  have read : Tree.ofChars? ([] ++ (v.chars ++ [])) = some tree :=
    Tree.ofChars?_framed plain nofun nofun
  rw [List.nil_append, List.append_nil] at read
  rw [Tree.read?, Value.compact, String.toList_ofList, read]

end Values

end ObjectGraph.Json
