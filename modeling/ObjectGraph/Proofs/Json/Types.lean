import ObjectGraph.Json.Decode
import ObjectGraph.Proofs.Json.Compact
import ObjectGraph.Proofs.Text.Decimal

/-!
# Element types and identities as JSON texts

A type survives its JSON form if each of its values is decoded from the text that is written for it.
Many more texts are accepted than are written: with spaces, with other forms of the same characters,
with other orders of the members.  What is decoded from them survives as well.  An identity is decoded
from its digits alone.

* `Json.types_survive`: element types and identities survive, and no identity is negative.
* `EntityId.ofChars?_bind_eq_some_iff`: the texts from which an identity is decoded.
-/

namespace ObjectGraph

open Json (Tree NumberText isSpace readTree readNumber skipSpaces)
open Text (digitsValue)

/-! ## Element types -/

theorem Json.Value.itemTrees?_strings (texts : List String) :
    itemTrees? (texts.map .string) = some (texts.map fun s => .string (some s)) := by
  induction texts with
  | nil => rfl
  | cons s texts ih =>
    rw [List.map_cons, itemTrees?, ih]
    rfl

theorem Json.Tree.texts?_strings (texts : List String) :
    (Tree.array (texts.map fun s => .string (some s))).texts? = some texts := by
  rw [texts?, List.mapM_map]
  exact (List.mapM_pure (m := Option) (f := id)).trans (congrArg some (List.map_id texts))

theorem Enumeration.exists_tree (e : Enumeration) :
    ∃ tree, e.toJson.tree? = some tree ∧ ofTree? tree = some e := by
  refine ⟨.object [(some "name", .string (some e.name)),
    (some "variants", .array (e.variants.map fun s => .string (some s)))], ?_, ?_⟩
  · simp [toJson, Json.Value.tree?, Json.Value.memberTrees?, Json.Value.itemTrees?_strings]
  · have variants := Json.Tree.texts?_strings e.variants
    simp [ofTree?, Tree.fields?, Tree.text?, variants]

theorem ElementType.exists_tree (t : ElementType) :
    ∃ tree, t.toJson.tree? = some tree ∧ ofTree? tree = some t := by
  cases t with
  | enum e =>
    obtain ⟨tree, written, read⟩ := e.exists_tree
    refine ⟨.object [(some "enum", tree)], ?_, ?_⟩
    · simp [toJson, Json.Value.tree?, Json.Value.memberTrees?, written]
    · simp [ofTree?, read]
  | entity typeName => exact ⟨.object [(some "entity", .string (some typeName))], rfl, rfl⟩
  | _ => exact ⟨.string _, rfl, rfl⟩

/-! ## Integers -/

namespace Json.Number

variable {text : NumberText} {n : Number} {i : Int64}

theorem ofText?_ofNat (n : UInt64) : ofText? (.ofNat n.toNat) = some (.unsigned n) := by
  have fits : n.toNat ≤ maxUnsigned := Nat.le_sub_one_of_lt n.toNat_lt
  rw [ofText?, NumberText.ofNat]
  dsimp only
  rw [Text.digitsValue_toDigits, if_pos (by simp [fits])]
  exact congrArg (some ∘ Number.unsigned) UInt64.ofNat_toNat

/-- A number that is read as an integer is written without point and exponent, and is minus zero in no
case. -/
theorem plain_of_toInt? (read : ofText? text = some n) (integer : n.toInt? = some i) :
    text = ⟨text.negative, text.whole, none, none⟩ ∧
      if text.negative then i.toInt = -(digitsValue 0 text.whole : Int) ∧ 0 < digitsValue 0 text.whole
      else i.toInt = digitsValue 0 text.whole := by
  obtain ⟨negative, whole, places, power⟩ := text
  unfold ofText? at read
  dsimp only at read ⊢
  split_ifs at read with plain unsigned range
  · simp only [Bool.and_eq_true, Option.isNone_iff_eq_none, decide_eq_true_eq] at plain
    obtain ⟨⟨rfl, rfl⟩, fits⟩ := plain
    obtain rfl : negative = false := by simpa using unsigned
    cases read
    have word : (UInt64.ofNat (digitsValue 0 whole)).toNat = digitsValue 0 whole :=
      UInt64.toNat_ofNat_of_lt' (Nat.lt_of_le_of_lt fits (by decide))
    unfold toInt? at integer
    dsimp only at integer
    rw [word] at integer
    split_ifs at integer with small
    cases integer
    refine ⟨rfl, Int64.toInt_ofInt_of_le (by omega) ?_⟩
    exact_mod_cast small
  · simp only [Bool.and_eq_true, Option.isNone_iff_eq_none, decide_eq_true_eq] at plain
    obtain ⟨⟨rfl, rfl⟩, fits⟩ := plain
    obtain rfl : negative = true := by simpa using unsigned
    cases read
    cases integer
    have power : Nat.pow 2 63 = 9223372036854775808 := rfl
    refine ⟨rfl, ?_, range.1⟩
    exact Int64.toInt_ofInt_of_le (by omega) (by omega)
  · cases read
    cases integer
  · obtain ⟨x, -, rfl⟩ := Option.map_eq_some_iff.1 read
    cases integer

end Json.Number

/-! ## Identities -/

namespace Json

variable {cs rest : List Char} {text : NumberText} {fuel : Nat}

/-- A tree that is a number comes from the number behind the spaces. -/
theorem readNumber_of_readTree (read : readTree fuel cs = some (.number text, rest)) :
    readNumber (skipSpaces cs) = some (text, rest) := by
  cases fuel with
  | zero => cases read
  | succ fuel =>
    rw [readTree] at read
    split at read
    · cases read
    · next c behind start =>
      rw [start]
      split_ifs at read
      · simp [Option.bind_eq_some_iff] at read
      · split at read <;> simp [Option.bind_eq_some_iff] at read
      · split at read <;> simp [Option.bind_eq_some_iff] at read
      · simp at read
      · simp at read
      · simp at read
      · obtain ⟨⟨text', rest'⟩, number, made⟩ := Option.bind_eq_some_iff.1 read
        cases made
        exact number

theorem eq_framed_of_ofChars? {digits : List Char}
    (read : Tree.ofChars? cs = some (.number ⟨false, digits, none, none⟩)) :
    digits = Nat.toDigits 10 (digitsValue 0 digits) ∧ ∃ before after,
      cs = before ++ (digits ++ after) ∧ (∀ c ∈ before, isSpace c = true) ∧
        ∀ c ∈ after, isSpace c = true := by
  obtain ⟨⟨tree, rest⟩, readFront, whole⟩ := Option.bind_eq_some_iff.1 read
  dsimp only at whole
  split_ifs at whole with done
  cases whole
  obtain ⟨front, canonical⟩ := eq_append_of_readNumber (readNumber_of_readTree readFront)
  refine ⟨canonical, cs.takeWhile isSpace, rest, ?_, fun c => List.mem_takeWhile_imp, ?_⟩
  · rw [← front]
    exact List.takeWhile_append_dropWhile.symm
  · exact List.dropWhile_eq_nil_iff.1 (List.isEmpty_iff.1 done)

end Json

namespace EntityId

variable {id : EntityId} {raw : Int64} {tree : Tree}

theorem toOption_ofInt64_eq_some_iff : (ofInt64 raw).toOption = some id ↔ raw = id.raw := by
  unfold ofInt64
  constructor
  · intro made
    split at made
    · cases made
      rfl
    · cases made
  · rintro rfl
    rw [dif_pos id.nonneg]
    rfl

theorem ofTree?_eq_some_iff : ofTree? tree = some id ↔ tree.int64? = some id.raw := by
  rw [ofTree?, Option.bind_eq_bind, Option.bind_eq_some_iff]
  simp only [toOption_ofInt64_eq_some_iff, exists_eq_right]

theorem exists_tree (id : EntityId) :
    ∃ tree, id.toJson.tree? = some tree ∧ ofTree? tree = some id := by
  obtain ⟨-, small⟩ := toNat_toUInt64 id.nonneg
  refine ⟨_, rfl, ofTree?_eq_some_iff.2 ?_⟩
  rw [Tree.int64?, Tree.number?, Json.Number.ofText?_ofNat]
  show (if id.raw.toUInt64.toNat < 2 ^ 63 then some (Int64.ofInt id.raw.toUInt64.toNat) else none) = _
  rw [if_pos small, ofInt_toNat, Int64.toInt64_toUInt64]

/-- Only an unsigned number without point and exponent is an identity. -/
theorem eq_number_of_ofTree? (read : ofTree? tree = some id) : ∃ digits,
    tree = .number ⟨false, digits, none, none⟩ ∧ digitsValue 0 digits = id.raw.toUInt64.toNat := by
  obtain ⟨n, number, integer⟩ := Option.bind_eq_some_iff.1 (ofTree?_eq_some_iff.1 read)
  cases tree with
  | number text =>
    obtain ⟨plain, value⟩ := Json.Number.plain_of_toInt? number integer
    have nonneg := Int64.le_iff_toInt_le.1 id.nonneg
    rw [Int64.toInt_zero] at nonneg
    obtain ⟨same, -⟩ := toNat_toUInt64 id.nonneg
    split_ifs at value with negative
    · omega
    · refine ⟨text.whole, ?_, by omega⟩
      rw [plain, Bool.eq_false_iff.2 negative]
  | _ => cases number

theorem chars_toJson (id : EntityId) : id.toJson.chars = Nat.toDigits 10 id.raw.toUInt64.toNat := rfl

/-- The digits of an identity are the text of its JSON form. -/
theorem compact_toJson (id : EntityId) : id.toJson.compact = id.text := by
  obtain ⟨read, -⟩ := toNat_toUInt64 id.nonneg
  rw [text, ← read, Json.Value.compact, chars_toJson]
  exact Nat.toString_eq_ofList_toDigits.symm

/-- **The texts of an identity** are its digits with spaces around them, and no others. -/
theorem ofChars?_bind_eq_some_iff {cs : List Char} :
    (Tree.ofChars? cs).bind ofTree? = some id ↔ ∃ before after,
      cs = before ++ (id.toJson.chars ++ after) ∧ (∀ c ∈ before, isSpace c = true) ∧
        ∀ c ∈ after, isSpace c = true := by
  constructor
  · intro accepted
    obtain ⟨tree, read, decoded⟩ := Option.bind_eq_some_iff.1 accepted
    obtain ⟨digits, rfl, value⟩ := eq_number_of_ofTree? decoded
    obtain ⟨canonical, framed⟩ := Json.eq_framed_of_ofChars? read
    rw [value, ← chars_toJson] at canonical
    rwa [← canonical]
  · rintro ⟨before, after, rfl, spacesBefore, spacesAfter⟩
    obtain ⟨tree, written, decoded⟩ := id.exists_tree
    rw [Tree.ofChars?_framed written spacesBefore spacesAfter]
    exact decoded

end EntityId

/-! ## Texts -/

namespace Json

section Forms

variable {α : Type} {ofTree? : Tree → Option α} {toJson : α → Value}

/-- What a JSON text is decoded to. -/
def decode? (ofTree? : Tree → Option α) (text : String) : Option α := (Tree.read? text).bind ofTree?

/-- The values of a type survive their JSON form: each is decoded from the text that is written for it,
and if one is decoded from any text whatever, then writing it and decoding again gives the same value
and the same text. -/
def Survives (ofTree? : Tree → Option α) (toJson : α → Value) : Prop :=
  (∀ a, decode? ofTree? (toJson a).compact = some a) ∧
  ∀ text a, decode? ofTree? text = some a → ∃ again,
    decode? ofTree? (toJson a).compact = some again ∧ again = a ∧
      (toJson again).compact = (toJson a).compact

theorem survives_of_trees
    (form : ∀ a, ∃ tree, (toJson a).tree? = some tree ∧ ofTree? tree = some a) :
    Survives ofTree? toJson := by
  have written (a : α) : decode? ofTree? (toJson a).compact = some a := by
    obtain ⟨tree, said, decoded⟩ := form a
    rw [decode?, Tree.read?_compact said, Option.bind_some, decoded]
  exact ⟨written, fun text a _ => ⟨a, written a, rfl, rfl⟩⟩

end Forms

/-- **Element types and identities survive their JSON form.**  An identity is written with its digits;
it is decoded from its digits with spaces around them and from no other text, so that a text with a
negative integer is always refused. -/
theorem types_survive :
    Survives ElementType.ofTree? ElementType.toJson ∧
    Survives EntityId.ofTree? EntityId.toJson ∧
    (∀ text id, decode? EntityId.ofTree? text = some id → 0 ≤ id.raw.toInt) ∧
    (∀ text raw, decode? Tree.int64? text = some raw → raw < 0 →
      decode? EntityId.ofTree? text = none) ∧
    ∀ text id, decode? EntityId.ofTree? text = some id ↔ ∃ before after,
      text.toList = before ++ (id.text.toList ++ after) ∧ (∀ c ∈ before, isSpace c = true) ∧
        ∀ c ∈ after, isSpace c = true := by
  refine ⟨survives_of_trees ElementType.exists_tree, survives_of_trees EntityId.exists_tree,
    fun text id _ => Int64.le_iff_toInt_le.1 id.nonneg, fun text raw integer negative => ?_,
    fun text id => ?_⟩
  · obtain ⟨tree, read, found⟩ := Option.bind_eq_some_iff.1 integer
    rw [decode?, read, Option.bind_some, Option.eq_none_iff_forall_ne_some]
    intro id decoded
    rw [EntityId.ofTree?_eq_some_iff, found, Option.some.injEq] at decoded
    subst decoded
    exact absurd id.nonneg (Int64.not_le.2 negative)
  · rw [← id.compact_toJson, Value.compact, String.toList_ofList]
    exact EntityId.ofChars?_bind_eq_some_iff

/-- An enumeration with members that are ignored, in another order than they are written, and with
characters in forms in which they are not written. -/
theorem types_survive_enum :
    let text := "\t\x7b \"enum\" : \x7b \"note\" : [1e5, \"\\ud800\"],\n" ++
      "\"variants\" : [\"\\ud83d\\ude00\", \"\\u0007\\u0022\"], \"name\" : \"Colour\" \x7d \x7d"
    let t := ElementType.enum ⟨"Colour", ["😀", "\x07\""]⟩
    decode? ElementType.ofTree? text = some t ∧
      t.toJson.compact =
        "\x7b\"enum\":\x7b\"name\":\"Colour\",\"variants\":[\"😀\",\"\\u0007\\\"\"]\x7d\x7d" ∧
      decode? ElementType.ofTree? t.toJson.compact = some t := by
  intro text t
  have accepted : decode? ElementType.ofTree? text = some t := by decide +kernel
  obtain ⟨⟨-, again⟩, -⟩ := types_survive
  obtain ⟨t', decoded, rfl, -⟩ := again text t accepted
  exact ⟨accepted, by decide +kernel, decoded⟩

end Json

end ObjectGraph
