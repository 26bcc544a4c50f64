import Cas.Nitro.Types

set_option autoImplicit false

namespace Cas

-- A `serde_json::Value` as far as the base fee codec looks at it: a number by the
-- text it prints, a string by its content, anything else by its text.
inductive JsonValue where
  | null
  | number (text : String)
  | string (content : String)
  | other (text : String)
deriving DecidableEq, Repr

-- The two libraries the codec calls: `RawValue::from_string` written out again, the reader
-- of an optional value, and `U256::from_str`.
structure FeeLibrary where
  rawValue : String → Except String String
  optionalValue : String → Except String (Option JsonValue)
  parseU256 : String → Except String U256

namespace GoBigintU256

def serialize (library : FeeLibrary) : Option U256 → Except String String
  | none => .ok "null"
  | some value => library.rawValue value.toNat.repr

def deserialize (library : FeeLibrary) (text : String) : Except String (Option U256) :=
  match library.optionalValue text with
  | .error reason => .error reason
  | .ok none => .ok none
  | .ok (some .null) => .ok none
  | .ok (some (.number printed)) => (library.parseU256 printed).map some
  | .ok (some (.string content)) => (library.parseU256 content).map some
  | .ok (some (.other text)) => .error s!"expected null, number, or string for U256, got {text}"

end GoBigintU256

def scientific (text : String) : Bool := text.toList.any (· = 'e') && text.toList.head?.any fun first => '1' ≤ first && first ≤ '9'

-- What is relied on of them. Without `arbitrary_precision` an integer literal beyond
-- `u64` is read as a float, which prints with an exponent.
structure FeeLibrary.Lawful (library : FeeLibrary) : Prop where
  raw : ∀ number : Nat, library.rawValue number.repr = .ok number.repr
  absent : library.optionalValue "null" = .ok none
  exact : ∀ number : Nat, number < 2 ^ 64 → library.optionalValue number.repr = .ok (some (.number number.repr))
  float : ∀ number : Nat, 2 ^ 64 ≤ number → number < 2 ^ 256 →
    ∃ printed, library.optionalValue number.repr = .ok (some (.number printed)) ∧ scientific printed = true
  decimal : ∀ value : U256, library.parseU256 value.toNat.repr = .ok value
  exponent : ∀ text, scientific text = true → ∃ reason, library.parseU256 text = .error reason

def relayBaseFee (library : FeeLibrary) (fee : Option U256) : Except String (Option U256) :=
  (GoBigintU256.serialize library fee).bind (GoBigintU256.deserialize library)

section Relay

variable (library : FeeLibrary) (lawful : library.Lawful)

include lawful

theorem absent_fee_relayed : relayBaseFee library none = .ok none := by
  change GoBigintU256.deserialize library "null" = .ok none
  rw [GoBigintU256.deserialize, lawful.absent]

theorem small_fee_relayed (value : U256) (small : value.toNat < 2 ^ 64) : relayBaseFee library (some value) = .ok (some value) := by
  rw [relayBaseFee, GoBigintU256.serialize, lawful.raw]
  change GoBigintU256.deserialize library value.toNat.repr = .ok (some value)
  simp only [GoBigintU256.deserialize, lawful.exact value.toNat small, lawful.decimal]
  rfl

theorem large_fee_refused (value : U256) (large : 2 ^ 64 ≤ value.toNat) : ∃ reason, relayBaseFee library (some value) = .error reason := by
  obtain ⟨printed, read, exponent⟩ := lawful.float value.toNat large value.isLt
  obtain ⟨reason, refused⟩ := lawful.exponent printed exponent
  refine ⟨reason, ?_⟩
  rw [relayBaseFee, GoBigintU256.serialize, lawful.raw]
  change GoBigintU256.deserialize library value.toNat.repr = .error reason
  simp only [GoBigintU256.deserialize, read, refused]
  rfl

end Relay

/-- A base fee survives the codec exactly when it is absent or fits in 64 bits. -/
theorem base_fee_relayed_iff (library : FeeLibrary) (lawful : library.Lawful) (fee : Option U256) :
    relayBaseFee library fee = .ok fee ↔ ∀ value, fee = some value → value.toNat < 2 ^ 64 := by
  cases fee with
  | none => exact iff_of_true (absent_fee_relayed library lawful) fun value present => by cases present
  | some value =>
      by_cases small : value.toNat < 2 ^ 64
      · refine iff_of_true (small_fee_relayed library lawful value small) fun other same => ?_
        rwa [← Option.some.inj same]
      · obtain ⟨reason, refused⟩ := large_fee_refused library lawful value (not_lt.mp small)
        refine iff_of_false (fun relayed => ?_) fun every => small (every value rfl)
        rw [refused] at relayed
        cases relayed

-- The libraries on decimal texts. The float is the one for 2 ^ 64.
def decimalLibrary : FeeLibrary where
  rawValue text := .ok text
  optionalValue text :=
    if text = "null" then .ok none
    else
      match text.toNat? with
      | none => .error "expected value"
      | some number => .ok (some (.number (if number < 2 ^ 64 then text else "1.8446744073709552e+19")))
  parseU256 text :=
    if scientific text then .error "invalid digit"
    else
      match text.toNat? with
      | none => .error "invalid digit"
      | some number => .ok (BitVec.ofNat 256 number)

theorem decimal_digits (number : Nat) (char : Char) (member : char ∈ number.repr.toList) : char.isDigit = true := by
  rw [Nat.toList_repr] at member
  exact Nat.isDigit_of_mem_toDigits (by decide) (by decide) member

theorem decimal_not_null (number : Nat) : number.repr ≠ "null" := by
  intro same
  have digit := decimal_digits number 'n' (by rw [same]; decide)
  exact absurd digit (by decide)

theorem decimal_not_scientific (number : Nat) : scientific number.repr = false := by
  have plain : number.repr.toList.any (· = 'e') = false := by
    rw [List.any_eq_false]
    intro char member same
    have digit := decimal_digits number char member
    rw [of_decide_eq_true same] at digit
    exact absurd digit (by decide)
  rw [scientific, plain, Bool.false_and]

theorem decimal_library_reads (number : Nat) : decimalLibrary.optionalValue number.repr =
    .ok (some (.number (if number < 2 ^ 64 then number.repr else "1.8446744073709552e+19"))) := by
  simp only [decimalLibrary, if_neg (decimal_not_null number), Nat.toNat?_repr]

theorem decimal_library_lawful : decimalLibrary.Lawful := by
  refine ⟨fun number => rfl, rfl, fun number small => ?_, fun number large _ => ?_, fun value => ?_, fun text exponent => ?_⟩
  · rw [decimal_library_reads, if_pos small]
  · rw [decimal_library_reads, if_neg (not_lt.mpr large)]
    exact ⟨_, rfl, by decide⟩
  · simp only [decimalLibrary, decimal_not_scientific, Bool.false_eq_true, if_false, Nat.toNat?_repr, BitVec.ofNat_toNat,
      BitVec.setWidth_eq]
  · exact ⟨"invalid digit", if_pos exponent⟩

-- The first fee beyond 64 bits: its decimal text is written, a float is read, and the float's text is no integer.
theorem fee_beyond_word_refused :
    GoBigintU256.serialize decimalLibrary (some 0x10000000000000000#256) = .ok "18446744073709551616" ∧
      decimalLibrary.optionalValue "18446744073709551616" = .ok (some (.number "1.8446744073709552e+19")) ∧
      relayBaseFee decimalLibrary (some 0x10000000000000000#256) ≠ .ok (some 0x10000000000000000#256) := by
  have written : (2 ^ 64 : Nat).repr = "18446744073709551616" := by decide
  rw [← written]
  refine ⟨rfl, decimal_library_reads (2 ^ 64), fun relayed => ?_⟩
  obtain ⟨reason, refused⟩ := large_fee_refused decimalLibrary decimal_library_lawful 0x10000000000000000#256 (by decide)
  rw [refused] at relayed
  cases relayed

theorem largest_word_fee_relayed :
    relayBaseFee decimalLibrary (some 0xffffffffffffffff#256) = .ok (some 0xffffffffffffffff#256) := by
  refine (base_fee_relayed_iff decimalLibrary decimal_library_lawful _).mpr fun value same => ?_
  rw [← Option.some.inj same]
  decide

end Cas
