import Cas.Nitro.Signature

set_option autoImplicit false

namespace Cas

def secp256k1Order : U256 := 0xFFFFFFFFFFFFFFFFFFFFFFFFFFFFFFFEBAAEDCE6AF48A03BBFD25E8CD0364141#256

theorem secp256k1_order_odd : secp256k1Order.toNat = 2 * secp256k1HalfOrder.toNat + 1 := by decide

-- Negating the nonce point negates s, so that (r, s) and (r, n - s) belong to one key.
def Mirrors (external : External) : Prop :=
  ∀ hash r s parity, external.recoverAddressFromPrehash hash r (secp256k1Order - s) (!parity) =
    external.recoverAddressFromPrehash hash r s parity

def signatureS (signature : Bytes) : U256 := u256FromBytes ((signature.drop 32).take 32)

structure Variant where
  mirrored : Bool
  last : UInt8
deriving DecidableEq, Repr

def Variant.middle (variant : Variant) (signature : Bytes) : Bytes :=
  if variant.mirrored then BigEndian.encode 32 (secp256k1Order - signatureS signature).toNat else (signature.drop 32).take 32

def Variant.bytes (variant : Variant) (signature : Bytes) : Bytes :=
  signature.take 32 ++ (variant.middle signature ++ [variant.last])

def OneParity (external : External) (hash : B256) (signature : Bytes) (signer : Address) : Prop :=
  ¬ ∀ parity, external.recoverAddressFromPrehash hash (u256FromBytes (signature.take 32)) (signatureS signature) parity = some signer

-- What the code tells from the signature itself: a mirrored s, the unchanged final byte, one that is no parity byte, and one
-- for the other parity.
def ToldApart (external : External) (hash : B256) (signature : Bytes) (signer : Address) (variant : Variant) : Prop :=
  variant.mirrored = true ∨ variant.last = signature.getD 64 0 ∨ parityOf variant.last = none ∨
    (parityOf variant.last ≠ parityOf (signature.getD 64 0) ∧ OneParity external hash signature signer)

theorem length_front (signature : Bytes) (width : signature.length = 65) : (signature.take 32).length = 32 := by
  rw [List.length_take, width]
  rfl

theorem length_middle (variant : Variant) (signature : Bytes) (width : signature.length = 65) : (variant.middle signature).length = 32 := by
  unfold Variant.middle
  split
  · exact BigEndian.length_encode 32 _
  · rw [List.length_take, List.length_drop, width]
    rfl

section Parts

variable (variant : Variant) (signature : Bytes) (width : signature.length = 65)

include width

theorem length_variant : (variant.bytes signature).length = 65 := by
  rw [Variant.bytes, List.length_append, List.length_append, length_middle variant signature width, length_front signature width]
  rfl

theorem take_variant : (variant.bytes signature).take 32 = signature.take 32 := by
  rw [Variant.bytes, List.take_left' (length_front signature width)]

theorem middle_variant : ((variant.bytes signature).drop 32).take 32 = variant.middle signature := by
  rw [Variant.bytes, List.drop_left' (length_front signature width), List.take_left' (length_middle variant signature width)]

theorem last_variant : (variant.bytes signature).getD 64 0 = variant.last := by
  have front : (signature.take 32 ++ variant.middle signature).length = 64 := by
    rw [List.length_append, length_middle variant signature width, length_front signature width]
  rw [Variant.bytes, ← List.append_assoc, List.getD_append_right _ _ _ _ (le_of_eq front), front]
  rfl

theorem unchanged_variant : (⟨false, signature.getD 64 0⟩ : Variant).bytes signature = signature := by
  have inside : 64 < signature.length := by
    rw [width]
    omega
  have ending : (signature.drop 32).drop 32 = [signature.getD 64 0] := by
    rw [List.drop_drop, List.drop_eq_getElem_cons inside, List.getD_eq_getElem signature 0 inside,
      List.drop_eq_nil_of_le (le_of_eq width)]
  rw [Variant.bytes, Variant.middle, if_neg Bool.false_ne_true, ← ending, List.take_append_drop, List.take_append_drop]

theorem variant_eq_iff (plain : variant.mirrored = false) : variant.bytes signature = signature ↔ variant.last = signature.getD 64 0 := by
  constructor
  · intro same
    rw [← last_variant variant signature width, same]
  · intro same
    have shape : variant = ⟨false, signature.getD 64 0⟩ := by
      cases variant
      simp_all only
    rw [shape, unchanged_variant signature width]

end Parts

theorem u256_from_encode (value : U256) : u256FromBytes (BigEndian.encode 32 value.toNat) = value := by
  have fits : value.toNat < 256 ^ 32 := value.isLt
  rw [u256FromBytes, BigEndian.decode_encode 32 _ fits, BitVec.ofNat_toNat, BitVec.setWidth_eq]

theorem mirrored_high (s : U256) (low : ¬ secp256k1HalfOrder < s) : secp256k1HalfOrder < secp256k1Order - s := by
  have odd := secp256k1_order_odd
  rw [BitVec.lt_def] at low ⊢
  have below : s ≤ secp256k1Order := by
    rw [BitVec.le_def]
    omega
  rw [BitVec.toNat_sub_of_le below]
  omega

theorem plain_variant_recovers (external : External) (hash : B256) (signature : Bytes) (signer : Address) (parity : Bool)
    (found : Recovered external hash signature signer parity) (variant : Variant) (plain : variant.mirrored = false) :
    recoverSignerAddress external hash (variant.bytes signature) = .ok signer ↔
      ∃ other, parityOf variant.last = some other ∧
        external.recoverAddressFromPrehash hash (u256FromBytes (signature.take 32)) (signatureS signature) other = some signer := by
  have middle : ((variant.bytes signature).drop 32).take 32 = (signature.drop 32).take 32 := by
    rw [middle_variant variant signature found.width, Variant.middle, plain, if_neg Bool.false_ne_true]
  have front := take_variant variant signature found.width
  have last := last_variant variant signature found.width
  rw [recover_signer_iff]
  refine exists_congr fun other => ⟨fun again => ?_, fun given => ?_⟩
  · have flagged := again.flagged
    have recovers := again.recovers
    rw [last] at flagged
    rw [front, middle] at recovers
    exact ⟨flagged, recovers⟩
  · refine ⟨length_variant variant signature found.width, ?_, ?_, ?_, ?_⟩
    · rw [last]
      exact given.1
    · rw [front, middle]
      exact found.nonzero
    · rw [middle]
      exact found.canonical
    · rw [front, middle]
      exact given.2

theorem one_parity_iff (external : External) (hash : B256) (signature : Bytes) (signer : Address) (parity : Bool)
    (found : Recovered external hash signature signer parity) (other : Bool) (different : other ≠ parity) :
    OneParity external hash signature signer ↔
      ¬ external.recoverAddressFromPrehash hash (u256FromBytes (signature.take 32)) (signatureS signature) other = some signer := by
  refine not_congr ⟨fun every => every other, fun recovers either => ?_⟩
  by_cases same : either = parity
  · rw [same]
    exact found.recovers
  · rw [(Bool.eq_not_of_ne same).trans (Bool.eq_not_of_ne different).symm]
    exact recovers

/-- A changed form of an accepted signature is refused for its signer exactly where `ToldApart` says: always with s mirrored, and
never with the other final byte of the same parity. -/
theorem signature_variants_iff (external : External) (hash : B256) (signature : Bytes) (signer : Address)
    (accepted : recoverSignerAddress external hash signature = .ok signer) (variant : Variant) :
    (variant.bytes signature ≠ signature → recoverSignerAddress external hash (variant.bytes signature) ≠ .ok signer) ↔
      ToldApart external hash signature signer variant := by
  obtain ⟨parity, found⟩ := (recover_signer_iff external hash signature signer).mp accepted
  cases plain : variant.mirrored with
  | true =>
      refine iff_of_true (fun _ again => ?_) (.inl plain)
      obtain ⟨other, mirrored⟩ := (recover_signer_iff external hash _ signer).mp again
      have canonical := mirrored.canonical
      rw [middle_variant variant signature found.width, Variant.middle, if_pos plain, u256_from_encode] at canonical
      exact canonical (mirrored_high _ found.canonical)
  | false =>
      rw [ne_eq, ne_eq, variant_eq_iff variant signature found.width plain,
        plain_variant_recovers external hash signature signer parity found variant plain, ToldApart, plain, found.flagged]
      by_cases same : variant.last = signature.getD 64 0
      · exact iff_of_true (fun changed => absurd same changed) (.inr (.inl same))
      · simp only [same, not_false_eq_true, true_imp_iff, Bool.false_eq_true, false_or]
        cases known : parityOf variant.last with
        | none => simp
        | some other =>
            simp only [reduceCtorEq, false_or, Option.some.injEq, exists_eq_left', ne_eq]
            by_cases twin : other = parity
            · rw [twin]
              exact iff_of_false (not_not.mpr found.recovers) fun told => told.1 rfl
            · rw [one_parity_iff external hash signature signer parity found other twin]
              exact ⟨fun refused => ⟨twin, refused⟩, And.right⟩

def mirroredExternal : External :=
  { upstreamExternal with
    recoverAddressFromPrehash := fun hash r s parity =>
      if hash = upstreamHash ∧ r = 0x9377c312145a5afb911bf9e8c067bcf6094c533603687850df502b61290bbf5e#256 ∧
        ((s = 0x1167fe6876e16e4ba38578b9773d7670aebb92c6244004579c25a604a1849438#256 ∧ parity = false) ∨
          (s = secp256k1Order - 0x1167fe6876e16e4ba38578b9773d7670aebb92c6244004579c25a604a1849438#256 ∧ parity = true)) then
        some upstreamSigner
      else none }

theorem mirrored_external_mirrors : Mirrors mirroredExternal := by
  have turn : ∀ s t : U256, secp256k1Order - s = t ↔ s = secp256k1Order - t := by
    intro s t
    grind
  have twice : ∀ s : U256, secp256k1Order - (secp256k1Order - s) = s := fun s => ((turn _ _).mpr rfl)
  intro hash r s parity
  simp only [mirroredExternal, turn, twice, Bool.not_eq_false', Bool.not_eq_true']
  simp only [or_comm]

-- The upstream signature ends in 27. The blob with 0 in its place is another one with the same signer.
theorem upstream_signature_twin :
    Mirrors mirroredExternal ∧ recoverSignerAddress mirroredExternal upstreamHash upstreamFeedMessage.signature = .ok upstreamSigner ∧
      (⟨false, 0⟩ : Variant).bytes upstreamFeedMessage.signature ≠ upstreamFeedMessage.signature ∧
      recoverSignerAddress mirroredExternal upstreamHash ((⟨false, 0⟩ : Variant).bytes upstreamFeedMessage.signature) = .ok upstreamSigner := by
  refine ⟨mirrored_external_mirrors, ?_, ?_, ?_⟩
  · decide +kernel
  · decide +kernel
  · decide +kernel

-- The blob with n - s and the other parity, which the check on s is there for.
theorem upstream_signature_mirrored :
    (⟨true, 28⟩ : Variant).bytes upstreamFeedMessage.signature ≠ upstreamFeedMessage.signature ∧
      recoverSignerAddress mirroredExternal upstreamHash ((⟨true, 28⟩ : Variant).bytes upstreamFeedMessage.signature) ≠ .ok upstreamSigner := by
  have changed : (⟨true, 28⟩ : Variant).bytes upstreamFeedMessage.signature ≠ upstreamFeedMessage.signature := by decide +kernel
  refine ⟨changed, (signature_variants_iff mirroredExternal upstreamHash upstreamFeedMessage.signature upstreamSigner ?_ ⟨true, 28⟩).mpr
    (.inl rfl) changed⟩
  decide +kernel

end Cas
