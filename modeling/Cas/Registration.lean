import Cas.Nitro.Types

set_option autoImplicit false

namespace Cas

inductive TeeType where
  | nitro
  | test
deriving DecidableEq, Repr

def TeeType.byte : TeeType → UInt8
  | .nitro => 0
  | .test => 1

inductive KeyManagerError where
  | invalidConfig (reason : String)
  | emptyAttestation (teeType : TeeType)
  | emptyJournal (teeType : TeeType)
  | emptyProof (teeType : TeeType)
  | attestationRetrievalFailed (reason : String)
  | zkProofGenerationFailed (reason : String)
  | onChainVerificationFailed (reason : String)
  | preparationExhausted (attempts : Nat) (signerAddr : Address)
  | registrationExhausted (attempts : Nat) (signerAddr : Address)
deriving DecidableEq, Repr

-- The part of `KeyManager` that registers. The limits hold of every key manager that is built.
structure Registrar where
  maxRegisterAttempts : Nat
  teeType : TeeType
  signerAddress : Address
  publicKeyUncompressed : Bytes
  positive : 0 < maxRegisterAttempts
  bounded : maxRegisterAttempts ≤ 10

def Registrar.newWithAttestationProvider (maxRegisterAttempts : UInt8) (teeType : TeeType) (signerAddress : Address)
    (publicKeyUncompressed : Bytes) : Except KeyManagerError Registrar :=
  if zero : maxRegisterAttempts = 0 then .error (.invalidConfig "max_register_attempts must be greater than 0")
  else if large : maxRegisterAttempts > 10 then
    .error (.invalidConfig "max_register_attempts must be less than or equal to 10 to prevent excessive retries")
  else
    .ok ⟨maxRegisterAttempts.toNat, teeType, signerAddress, publicKeyUncompressed,
      Nat.pos_of_ne_zero fun none => zero (UInt8.toNat_inj.mp none), UInt8.le_iff_toNat_le.mp (UInt8.not_lt.mp large)⟩

-- The mock verifier contract knows only the Nitro type.
def Registrar.onChainTeeType (manager : Registrar) : TeeType :=
  match manager.teeType with
  | .test => .nitro
  | other => other

-- The calls to the verifier contract, the attestation provider and the attestation verifier, with their answers.
inductive TeeCall where
  | registeredServices (addr : Address) (teeType : TeeType) (answer : Except String Bool)
  | registerService (attestation data : Bytes) (teeType : UInt8) (answer : Except String Unit)
  | getAttestation (pubKey : Bytes) (answer : Except String Bytes)
  | generateZkProof (attestation : Bytes) (answer : Except String (Bytes × Bytes))
deriving DecidableEq, Repr

-- How these answer, given the calls made before.
structure TeeEnvironment where
  registeredServices : List TeeCall → Address → TeeType → Except String Bool
  registerService : List TeeCall → Bytes → Bytes → UInt8 → Except String Unit
  getAttestation : List TeeCall → Bytes → Except String Bytes
  generateZkProof : List TeeCall → Bytes → Except String (Bytes × Bytes)
  encodeMockVerifierJournal : Bytes → Bytes

section Manager

variable (env : TeeEnvironment) (manager : Registrar)

def verifyRegistrationOnChain (calls : List TeeCall) : Except KeyManagerError Bool × List TeeCall :=
  let answer := env.registeredServices calls manager.signerAddress manager.onChainTeeType
  (answer.mapError .onChainVerificationFailed, calls ++ [.registeredServices manager.signerAddress manager.onChainTeeType answer])

def prepareRegisterService (calls : List TeeCall) : Except KeyManagerError (Bytes × Bytes) × List TeeCall :=
  let pubKeyBytes := manager.publicKeyUncompressed
  match manager.teeType with
  | .test => (.ok (env.encodeMockVerifierJournal pubKeyBytes, []), calls)
  | .nitro =>
      let answer := env.getAttestation calls pubKeyBytes
      let calls := calls ++ [.getAttestation pubKeyBytes answer]
      match answer with
      | .error reason => (.error (.attestationRetrievalFailed reason), calls)
      | .ok attestation =>
          if attestation.isEmpty then (.error (.emptyAttestation manager.teeType), calls)
          else
            let answer := env.generateZkProof calls attestation
            let calls := calls ++ [.generateZkProof attestation answer]
            match answer with
            | .error reason => (.error (.zkProofGenerationFailed reason), calls)
            | .ok (journalBytes, proofBytes) =>
                if journalBytes.isEmpty then (.error (.emptyJournal manager.teeType), calls)
                else if proofBytes.isEmpty then (.error (.emptyProof manager.teeType), calls)
                else (.ok (journalBytes, proofBytes), calls)

-- The first loop of `initialize`.
def prepareAttempts : Nat → List TeeCall → Option (Bytes × Bytes) × List TeeCall
  | 0, calls => (none, calls)
  | attempts + 1, calls =>
      match prepareRegisterService env manager calls with
      | (.ok data, calls) => (some data, calls)
      | (.error _, calls) => prepareAttempts attempts calls

-- The second loop of `initialize`.
def registerAttempts (journalBytes proofBytes : Bytes) : Nat → List TeeCall → Except KeyManagerError Unit × List TeeCall
  | 0, calls => (.error (.registrationExhausted manager.maxRegisterAttempts manager.signerAddress), calls)
  | attempts + 1, calls =>
      let answer := env.registerService calls journalBytes proofBytes manager.onChainTeeType.byte
      let calls := calls ++ [.registerService journalBytes proofBytes manager.onChainTeeType.byte answer]
      match answer with
      | .error _ => registerAttempts journalBytes proofBytes attempts calls
      | .ok () =>
          match verifyRegistrationOnChain env manager calls with
          | (.error err, calls) => (.error err, calls)
          | (.ok true, calls) => (.ok (), calls)
          | (.ok false, calls) => registerAttempts journalBytes proofBytes attempts calls

def initializeKeyManager : Except KeyManagerError Unit × List TeeCall :=
  match verifyRegistrationOnChain env manager [] with
  | (.error err, calls) => (.error err, calls)
  | (.ok true, calls) => (.ok (), calls)
  | (.ok false, calls) =>
      match prepareAttempts env manager manager.maxRegisterAttempts calls with
      | (none, calls) => (.error (.preparationExhausted manager.maxRegisterAttempts manager.signerAddress), calls)
      | (some (journalBytes, proofBytes), calls) => registerAttempts env manager journalBytes proofBytes manager.maxRegisterAttempts calls

def TeeCall.attests : TeeCall → Bool
  | .getAttestation _ _ => true
  | _ => false

def TeeCall.registers : TeeCall → Bool
  | .registerService _ _ _ _ => true
  | _ => false

def Registrar.query (answer : Except String Bool) : TeeCall := .registeredServices manager.signerAddress manager.onChainTeeType answer

def Attested (calls : List TeeCall) (journalBytes proofBytes : Bytes) : Prop :=
  match manager.teeType with
  | .test => journalBytes = env.encodeMockVerifierJournal manager.publicKeyUncompressed ∧ proofBytes = []
  | .nitro => ∃ attestation,
      [.getAttestation manager.publicKeyUncompressed (.ok attestation), .generateZkProof attestation (.ok (journalBytes, proofBytes))] <:+:
        calls ∧
      attestation ≠ [] ∧ journalBytes ≠ [] ∧ proofBytes ≠ []

theorem attested_more (calls more : List TeeCall) (grows : calls <:+: more) (journalBytes proofBytes : Bytes)
    (attested : Attested env manager calls journalBytes proofBytes) : Attested env manager more journalBytes proofBytes := by
  unfold Attested at attested ⊢
  cases teeType : manager.teeType with
  | test =>
      rw [teeType] at attested
      exact attested
  | nitro =>
      rw [teeType] at attested
      obtain ⟨attestation, proved, full⟩ := attested
      exact ⟨attestation, proved.trans grows, full⟩

def Registrar.prepares : TeeCall → Prop
  | .getAttestation pubKey _ => manager.teeType = .nitro ∧ pubKey = manager.publicKeyUncompressed
  | .generateZkProof _ _ => manager.teeType = .nitro
  | _ => False

structure Preparation (attempts : Nat) (added : List TeeCall) (data : Option (Bytes × Bytes)) : Prop where
  quiet : ∀ call ∈ added, manager.prepares call
  limited : added.countP TeeCall.attests ≤ attempts
  exhausted : data = none → added.countP TeeCall.attests = attempts
  attested : ∀ journalBytes proofBytes, data = some (journalBytes, proofBytes) → Attested env manager added journalBytes proofBytes

theorem attempt_calls (nitro : manager.teeType = .nitro) (answer : Except String Bytes) (rest : List TeeCall)
    (proofs : ∀ call ∈ rest, ∃ attestation answer, call = .generateZkProof attestation answer) :
    (∀ call ∈ TeeCall.getAttestation manager.publicKeyUncompressed answer :: rest, manager.prepares call) ∧
      (TeeCall.getAttestation manager.publicKeyUncompressed answer :: rest).countP TeeCall.attests = 1 := by
  constructor
  · intro call member
    rcases List.mem_cons.mp member with rfl | later
    · exact ⟨nitro, rfl⟩
    · obtain ⟨attestation, answer, rfl⟩ := proofs call later
      exact nitro
  · rw [List.countP_cons_of_pos rfl]
    have none : rest.countP TeeCall.attests = 0 := by
      rw [List.countP_eq_zero]
      intro call member
      obtain ⟨attestation, answer, rfl⟩ := proofs call member
      exact Bool.false_ne_true
    rw [none]

theorem failed_preparation (nitro : manager.teeType = .nitro) (answer : Except String Bytes) (rest : List TeeCall)
    (proofs : ∀ call ∈ rest, ∃ attestation answer, call = .generateZkProof attestation answer) :
    Preparation env manager 1 (.getAttestation manager.publicKeyUncompressed answer :: rest) none := by
  obtain ⟨quiet, one⟩ := attempt_calls manager nitro answer rest proofs
  exact ⟨quiet, Nat.le_of_eq one, fun _ => one, fun _ _ same => nomatch same⟩

theorem prepare_register_outcome (calls : List TeeCall) :
    ∃ added, (prepareRegisterService env manager calls).2 = calls ++ added ∧
      Preparation env manager 1 added (prepareRegisterService env manager calls).1.toOption := by
  cases teeType : manager.teeType with
  | test =>
      simp only [prepareRegisterService, teeType]
      refine ⟨[], (List.append_nil calls).symm, fun _ member => absurd member List.not_mem_nil, Nat.zero_le _,
        (fun failed => nomatch failed), fun journalBytes proofBytes same => ?_⟩
      obtain ⟨rfl, rfl⟩ := Prod.mk.inj (Option.some.inj same)
      rw [Attested, teeType]
      exact ⟨rfl, rfl⟩
  | nitro =>
      have failed := failed_preparation env manager teeType
      simp only [prepareRegisterService, teeType]
      cases read : env.getAttestation calls manager.publicKeyUncompressed with
      | error reason => exact ⟨_, rfl, failed (.error reason) [] fun _ member => absurd member List.not_mem_nil⟩
      | ok attestation =>
          simp only
          by_cases empty : attestation.isEmpty = true
          · rw [if_pos empty]
            exact ⟨_, rfl, failed (.ok attestation) [] fun _ member => absurd member List.not_mem_nil⟩
          · rw [if_neg empty]
            have proofs : ∀ answer, ∀ call ∈ [TeeCall.generateZkProof attestation answer],
                ∃ attestation answer, call = TeeCall.generateZkProof attestation answer :=
              fun answer call member => ⟨attestation, answer, List.mem_singleton.mp member⟩
            cases proved : env.generateZkProof (calls ++ [.getAttestation manager.publicKeyUncompressed (.ok attestation)]) attestation with
            | error reason => exact ⟨_, List.append_assoc _ _ _, failed (.ok attestation) _ (proofs (.error reason))⟩
            | ok data =>
                obtain ⟨journalBytes, proofBytes⟩ := data
                simp only
                by_cases noJournal : journalBytes.isEmpty = true
                · rw [if_pos noJournal]
                  exact ⟨_, List.append_assoc _ _ _, failed (.ok attestation) _ (proofs (.ok (journalBytes, proofBytes)))⟩
                · rw [if_neg noJournal]
                  by_cases noProof : proofBytes.isEmpty = true
                  · rw [if_pos noProof]
                    exact ⟨_, List.append_assoc _ _ _, failed (.ok attestation) _ (proofs (.ok (journalBytes, proofBytes)))⟩
                  · rw [if_neg noProof]
                    obtain ⟨quiet, one⟩ := attempt_calls manager teeType (.ok attestation) _ (proofs (.ok (journalBytes, proofBytes)))
                    refine ⟨_, List.append_assoc _ _ _, quiet, Nat.le_of_eq one, (fun failed => nomatch failed),
                      fun journal proof same => ?_⟩
                    obtain ⟨rfl, rfl⟩ := Prod.mk.inj (Option.some.inj same)
                    rw [Attested, teeType]
                    exact ⟨attestation, List.infix_refl _, by simpa using empty, by simpa using noJournal, by simpa using noProof⟩

theorem prepare_attempts_outcome (attempts : Nat) (calls : List TeeCall) :
    ∃ added, (prepareAttempts env manager attempts calls).2 = calls ++ added ∧
      Preparation env manager attempts added (prepareAttempts env manager attempts calls).1 := by
  induction attempts generalizing calls with
  | zero =>
      exact ⟨[], (List.append_nil calls).symm, fun _ member => absurd member List.not_mem_nil, Nat.le_refl _, fun _ => rfl,
        fun _ _ same => nomatch same⟩
  | succ attempts ih =>
      obtain ⟨first, grown, prepared⟩ := prepare_register_outcome env manager calls
      unfold prepareAttempts
      generalize prepareRegisterService env manager calls = outcome at grown prepared
      obtain ⟨result, reached⟩ := outcome
      cases result with
      | ok data =>
          exact ⟨first, grown, prepared.quiet, prepared.limited.trans (Nat.le_add_left _ _), (fun failed => nomatch failed),
            prepared.attested⟩
      | error reason =>
          obtain ⟨rest, further, later⟩ := ih reached
          have one := prepared.exhausted rfl
          simp only at grown further ⊢
          refine ⟨first ++ rest, by rw [further, grown, List.append_assoc], fun call member => ?_, ?_, fun none => ?_,
            fun journalBytes proofBytes same => ?_⟩
          · exact (List.mem_append.mp member).elim (prepared.quiet call) (later.quiet call)
          · have limited := later.limited
            rw [List.countP_append]
            omega
          · have exhausted := later.exhausted none
            rw [List.countP_append]
            omega
          · exact attested_more env manager rest _ (List.suffix_append _ _).isInfix journalBytes proofBytes
              (later.attested journalBytes proofBytes same)

structure Registering (attempts : Nat) (journalBytes proofBytes : Bytes) (added : List TeeCall) (result : Except KeyManagerError Unit) :
    Prop where
  only : ∀ call ∈ added, (∃ answer, call = .registerService journalBytes proofBytes manager.onChainTeeType.byte answer) ∨
    ∃ answer, call = manager.query answer
  limited : added.countP TeeCall.registers ≤ attempts
  succeeds : result = .ok () ↔ added.getLast? = some (manager.query (.ok true))
  fails : ∀ error, result = .error error →
    (∃ reason, error = .onChainVerificationFailed reason ∧ added.getLast? = some (manager.query (.error reason))) ∨
      (error = .registrationExhausted manager.maxRegisterAttempts manager.signerAddress ∧ added.countP TeeCall.registers = attempts)

theorem registering_after (attempts : Nat) (journalBytes proofBytes : Bytes) (front rest : List TeeCall)
    (result : Except KeyManagerError Unit)
    (only : ∀ call ∈ front, (∃ answer, call = .registerService journalBytes proofBytes manager.onChainTeeType.byte answer) ∨
      ∃ answer, call = manager.query answer)
    (one : front.countP TeeCall.registers = 1) (unconfirmed : front.getLast? ≠ some (manager.query (.ok true)))
    (later : Registering manager attempts journalBytes proofBytes rest result) :
    Registering manager (attempts + 1) journalBytes proofBytes (front ++ rest) result := by
  refine ⟨fun call member => (List.mem_append.mp member).elim (only call) (later.only call), ?_, ?_, fun error same => ?_⟩
  · have limited := later.limited
    rw [List.countP_append]
    omega
  · rw [later.succeeds, List.getLast?_append]
    cases rest.getLast? with
    | none => exact ⟨(fun same => nomatch same), fun same => absurd same unconfirmed⟩
    | some call => rfl
  · rcases later.fails error same with ⟨reason, unverified, last⟩ | ⟨exhausted, all⟩
    · refine .inl ⟨reason, unverified, ?_⟩
      rw [List.getLast?_append, last, Option.some_or]
    · refine .inr ⟨exhausted, ?_⟩
      rw [List.countP_append]
      omega

theorem register_attempts_outcome (journalBytes proofBytes : Bytes) (attempts : Nat) (calls : List TeeCall) :
    ∃ added, (registerAttempts env manager journalBytes proofBytes attempts calls).2 = calls ++ added ∧
      Registering manager attempts journalBytes proofBytes added
        (registerAttempts env manager journalBytes proofBytes attempts calls).1 := by
  induction attempts generalizing calls with
  | zero =>
      exact ⟨[], (List.append_nil calls).symm, fun _ member => absurd member List.not_mem_nil, Nat.le_refl _,
        ⟨fun same => (nomatch same), fun same => (nomatch same)⟩, fun error same => .inr ⟨(Except.error.inj same).symm, rfl⟩⟩
  | succ attempts ih =>
      have after := registering_after manager attempts journalBytes proofBytes
      simp only [registerAttempts]
      cases registered : env.registerService calls journalBytes proofBytes manager.onChainTeeType.byte with
      | error reason =>
          obtain ⟨rest, further, later⟩ :=
            ih (calls ++ [.registerService journalBytes proofBytes manager.onChainTeeType.byte (.error reason)])
          refine ⟨_, further.trans (List.append_assoc _ _ _), after _ rest _ (fun call member => ?_) rfl (fun same => nomatch same) later⟩
          exact .inl ⟨_, List.mem_singleton.mp member⟩
      | ok done =>
          have pair : ∀ answer,
              ∀ call ∈ [TeeCall.registerService journalBytes proofBytes manager.onChainTeeType.byte (.ok done), manager.query answer],
              (∃ answer, call = .registerService journalBytes proofBytes manager.onChainTeeType.byte answer) ∨
                ∃ answer, call = manager.query answer := by
            intro answer call member
            rcases List.mem_cons.mp member with rfl | last
            · exact .inl ⟨_, rfl⟩
            · exact .inr ⟨answer, List.mem_singleton.mp last⟩
          simp only [verifyRegistrationOnChain]
          cases checked : env.registeredServices
              (calls ++ [.registerService journalBytes proofBytes manager.onChainTeeType.byte (.ok done)]) manager.signerAddress
              manager.onChainTeeType with
          | error reason =>
              refine ⟨_, List.append_assoc _ _ _, pair (.error reason), Nat.le_add_left _ _, ⟨(fun same => nomatch same), fun same => ?_⟩,
                fun error same => .inl ⟨reason, (Except.error.inj same).symm, rfl⟩⟩
              have last : manager.query (.error reason) = manager.query (.ok true) := Option.some.inj same
              cases last
          | ok present =>
              cases present with
              | true =>
                  exact ⟨_, List.append_assoc _ _ _, pair (.ok true), Nat.le_add_left _ _, ⟨fun _ => rfl, fun _ => rfl⟩,
                    fun _ same => nomatch same⟩
              | false =>
                  obtain ⟨rest, further, later⟩ := ih
                    (calls ++ [.registerService journalBytes proofBytes manager.onChainTeeType.byte (.ok done)] ++
                      [manager.query (.ok false)])
                  refine ⟨_, ?_, after _ rest _ (pair (.ok false)) rfl (fun same => ?_) later⟩
                  · refine further.trans ?_
                    rw [List.append_assoc, List.append_assoc, ← List.append_assoc [_]]
                    rfl
                  · have last : manager.query (.ok false) = manager.query (.ok true) := Option.some.inj same
                    cases last

structure RegistrationRun (result : Except KeyManagerError Unit) (calls : List TeeCall) : Prop where
  queries : ∀ addr teeType answer, .registeredServices addr teeType answer ∈ calls →
    addr = manager.signerAddress ∧ teeType = manager.onChainTeeType
  attestations : ∀ pubKey answer, .getAttestation pubKey answer ∈ calls →
    manager.teeType = .nitro ∧ pubKey = manager.publicKeyUncompressed
  registrations : ∀ i journalBytes proofBytes teeType answer, calls[i]? = some (.registerService journalBytes proofBytes teeType answer) →
    teeType = manager.onChainTeeType.byte ∧ Attested env manager (calls.take i) journalBytes proofBytes
  succeeds : result = .ok () ↔ calls.getLast? = some (manager.query (.ok true))
  once : calls.head? = some (manager.query (.ok true)) → calls.length = 1
  limited : calls.countP TeeCall.attests ≤ manager.maxRegisterAttempts ∧ calls.countP TeeCall.registers ≤ manager.maxRegisterAttempts
  fails : ∀ error, result = .error error →
    (∃ reason, error = .onChainVerificationFailed reason ∧ calls.getLast? = some (manager.query (.error reason))) ∨
      (error = .preparationExhausted manager.maxRegisterAttempts manager.signerAddress ∧ manager.teeType = .nitro ∧
        calls.countP TeeCall.attests = manager.maxRegisterAttempts ∧ calls.countP TeeCall.registers = 0) ∨
      (error = .registrationExhausted manager.maxRegisterAttempts manager.signerAddress ∧
        calls.countP TeeCall.registers = manager.maxRegisterAttempts)

theorem lone_query_run (answer : Except String Bool) (result : Except KeyManagerError Unit)
    (succeeds : result = .ok () ↔ answer = .ok true)
    (fails : ∀ error, result = .error error → ∃ reason, error = .onChainVerificationFailed reason ∧ answer = .error reason) :
    RegistrationRun env manager result [manager.query answer] where
  queries := fun addr teeType asked member => by
    cases List.mem_singleton.mp member
    exact ⟨rfl, rfl⟩
  attestations := fun _ _ member => by cases List.mem_singleton.mp member
  registrations := fun _ _ _ _ _ called => by cases List.mem_singleton.mp (List.mem_of_getElem? called)
  succeeds := by
    rw [succeeds, List.getLast?_singleton, Option.some.injEq]
    exact ⟨congrArg manager.query, fun same => (TeeCall.registeredServices.inj same).2.2⟩
  once := fun _ => rfl
  limited := ⟨Nat.zero_le _, Nat.zero_le _⟩
  fails := fun error same => by
    obtain ⟨reason, unverified, asked⟩ := fails error same
    exact .inl ⟨reason, unverified, by rw [asked]; rfl⟩

structure Unregistered (front : List TeeCall) : Prop where
  queries : ∀ addr teeType answer, .registeredServices addr teeType answer ∈ front →
    addr = manager.signerAddress ∧ teeType = manager.onChainTeeType
  attestations : ∀ pubKey answer, .getAttestation pubKey answer ∈ front →
    manager.teeType = .nitro ∧ pubKey = manager.publicKeyUncompressed
  registrations : front.countP TeeCall.registers = 0
  first : front.head? = some (manager.query (.ok false))
  last : ∀ answer, front.getLast? = some (manager.query answer) → answer = .ok false

theorem unregistered_prepared (added : List TeeCall) (quiet : ∀ call ∈ added, manager.prepares call) :
    Unregistered manager (manager.query (.ok false) :: added) := by
  have asked : ∀ addr teeType answer, .registeredServices addr teeType answer ∈ manager.query (.ok false) :: added →
      TeeCall.registeredServices addr teeType answer = manager.query (.ok false) := by
    intro addr teeType answer member
    rcases List.mem_cons.mp member with same | later
    · exact same
    · exact (quiet _ later).elim
  refine ⟨fun addr teeType answer member => ?_, fun pubKey answer member => ?_, ?_, rfl, fun answer last => ?_⟩
  · cases asked addr teeType answer member
    exact ⟨rfl, rfl⟩
  · exact quiet _ ((List.mem_cons.mp member).resolve_left nofun)
  · rw [List.countP_eq_zero]
    intro call member
    rcases List.mem_cons.mp member with rfl | later
    · exact Bool.false_ne_true
    · cases call with
      | registerService attestation data teeType answer => exact (quiet _ later).elim
      | registeredServices | getAttestation | generateZkProof => exact Bool.false_ne_true
  · exact (TeeCall.registeredServices.inj (asked _ _ _ (List.mem_of_getLast? last))).2.2

theorem registering_run (front added : List TeeCall) (journalBytes proofBytes : Bytes) (result : Except KeyManagerError Unit)
    (unregistered : Unregistered manager front) (attempted : front.countP TeeCall.attests ≤ manager.maxRegisterAttempts)
    (attested : Attested env manager front journalBytes proofBytes)
    (registering : Registering manager manager.maxRegisterAttempts journalBytes proofBytes added result) :
    RegistrationRun env manager result (front ++ added) := by
  have noAttestation : added.countP TeeCall.attests = 0 := by
    rw [List.countP_eq_zero]
    intro call member
    rcases registering.only call member with ⟨_, rfl⟩ | ⟨_, rfl⟩ <;> exact Bool.false_ne_true
  have registrations : (front ++ added).countP TeeCall.registers = added.countP TeeCall.registers := by
    rw [List.countP_append, unregistered.registrations, Nat.zero_add]
  refine ⟨fun addr teeType answer member => ?_, fun pubKey answer member => ?_, fun i journal proof teeType answer called => ?_, ?_,
    fun known => ?_, ?_, fun error same => ?_⟩
  · rcases List.mem_append.mp member with before | after
    · exact unregistered.queries addr teeType answer before
    · rcases registering.only _ after with ⟨_, same⟩ | ⟨_, same⟩ <;> cases same
      exact ⟨rfl, rfl⟩
  · rcases List.mem_append.mp member with before | after
    · exact unregistered.attestations pubKey answer before
    · exact absurd rfl (List.countP_eq_zero.mp noAttestation _ after)
  · rw [List.getElem?_append] at called
    split at called
    · exact absurd rfl (List.countP_eq_zero.mp unregistered.registrations _ (List.mem_of_getElem? called))
    · rename_i behind
      rcases registering.only _ (List.mem_of_getElem? called) with ⟨_, same⟩ | ⟨_, same⟩ <;> cases same
      refine ⟨rfl, attested_more env manager front _ ?_ journalBytes proofBytes attested⟩
      rw [List.take_append, List.take_of_length_le (Nat.le_of_not_lt behind)]
      exact (List.prefix_append _ _).isInfix
  · rw [registering.succeeds, List.getLast?_append]
    cases added.getLast? with
    | none => exact ⟨nofun, fun last => nomatch unregistered.last (.ok true) last⟩
    | some call => rfl
  · rw [List.head?_append, unregistered.first] at known
    cases (TeeCall.registeredServices.inj (Option.some.inj known)).2.2
  · rw [registrations, List.countP_append, noAttestation]
    exact ⟨attempted, registering.limited⟩
  · rcases registering.fails error same with ⟨reason, unverified, last⟩ | ⟨exhausted, all⟩
    · exact .inl ⟨reason, unverified, by rw [List.getLast?_append, last, Option.some_or]⟩
    · exact .inr (.inr ⟨exhausted, registrations.trans all⟩)

theorem exhausted_run (front : List TeeCall) (unregistered : Unregistered manager front)
    (attempted : front.countP TeeCall.attests = manager.maxRegisterAttempts) :
    RegistrationRun env manager (.error (.preparationExhausted manager.maxRegisterAttempts manager.signerAddress)) front := by
  -- At least one attempt was made, and the test type attests nothing.
  have nitro : manager.teeType = .nitro := by
    obtain ⟨call, member, attests⟩ := List.countP_pos_iff.mp (attempted ▸ manager.positive)
    cases call with
    | getAttestation pubKey answer => exact (unregistered.attestations pubKey answer member).1
    | registeredServices | registerService | generateZkProof => cases attests
  refine ⟨unregistered.queries, unregistered.attestations, fun _ _ _ _ _ called => ?_, ⟨nofun, fun last => ?_⟩, fun known => ?_, ?_,
    fun error same => ?_⟩
  · exact absurd rfl (List.countP_eq_zero.mp unregistered.registrations _ (List.mem_of_getElem? called))
  · cases unregistered.last (.ok true) last
  · rw [unregistered.first] at known
    cases (TeeCall.registeredServices.inj (Option.some.inj known)).2.2
  · exact ⟨Nat.le_of_eq attempted, unregistered.registrations ▸ Nat.zero_le _⟩
  · exact .inr (.inl ⟨(Except.error.inj same).symm, nitro, attempted, unregistered.registrations⟩)

theorem initialize_run : RegistrationRun env manager (initializeKeyManager env manager).1 (initializeKeyManager env manager).2 := by
  have alone := lone_query_run env manager
  simp only [initializeKeyManager, verifyRegistrationOnChain]
  cases asked : env.registeredServices [] manager.signerAddress manager.onChainTeeType with
  | error reason => exact alone (.error reason) _ ⟨nofun, nofun⟩ fun error same => ⟨reason, (Except.error.inj same).symm, rfl⟩
  | ok present =>
      cases present with
      | true => exact alone (.ok true) _ ⟨fun _ => rfl, fun _ => rfl⟩ nofun
      | false =>
          simp only [Except.mapError, List.nil_append]
          obtain ⟨added, grown, prepared⟩ := prepare_attempts_outcome env manager manager.maxRegisterAttempts
            [.registeredServices manager.signerAddress manager.onChainTeeType (.ok false)]
          have unregistered := unregistered_prepared manager added prepared.quiet
          generalize prepareAttempts env manager manager.maxRegisterAttempts
            [.registeredServices manager.signerAddress manager.onChainTeeType (.ok false)] = outcome at grown prepared ⊢
          obtain ⟨data, reached⟩ := outcome
          cases grown
          cases data with
          | none => exact exhausted_run env manager _ unregistered (prepared.exhausted rfl)
          | some data =>
              obtain ⟨journalBytes, proofBytes⟩ := data
              obtain ⟨rest, further, registering⟩ := register_attempts_outcome env manager journalBytes proofBytes
                manager.maxRegisterAttempts (manager.query (.ok false) :: added)
              have attested := attested_more env manager added (manager.query (.ok false) :: added)
                (List.suffix_cons _ _).isInfix journalBytes proofBytes (prepared.attested _ _ rfl)
              have run := registering_run env manager _ rest journalBytes proofBytes _ unregistered prepared.limited attested registering
              rw [← further] at run
              exact run

def TeeEnvironment.gives (before : List TeeCall) : TeeCall → Prop
  | .registeredServices addr teeType answer => answer = env.registeredServices before addr teeType
  | .registerService attestation data teeType answer => answer = env.registerService before attestation data teeType
  | .getAttestation pubKey answer => answer = env.getAttestation before pubKey
  | .generateZkProof attestation answer => answer = env.generateZkProof before attestation

def TeeEnvironment.Answered (calls : List TeeCall) : Prop :=
  ∀ (i : Nat) (call : TeeCall), calls[i]? = some call → env.gives (calls.take i) call

theorem answered_next (calls : List TeeCall) (call : TeeCall) (answered : env.Answered calls) (given : env.gives calls call) :
    env.Answered (calls ++ [call]) := by
  intro i other called
  rw [List.getElem?_append] at called
  split at called
  · rename_i earlier
    rw [List.take_append_of_le_length earlier.le]
    exact answered i other called
  · rename_i behind
    have inside := (List.getElem?_eq_some_iff.mp called).1
    have last : i = calls.length := by
      rw [List.length_singleton] at inside
      omega
    rw [last, Nat.sub_self] at called
    obtain rfl := Option.some.inj called
    rw [last, List.take_left]
    exact given

theorem verify_answered (calls : List TeeCall) (answered : env.Answered calls) :
    env.Answered (verifyRegistrationOnChain env manager calls).2 :=
  answered_next env calls _ answered rfl

theorem prepare_register_answered (calls : List TeeCall) (answered : env.Answered calls) :
    env.Answered (prepareRegisterService env manager calls).2 := by
  unfold prepareRegisterService
  cases manager.teeType with
  | test => exact answered
  | nitro =>
      have attested := answered_next env calls (.getAttestation manager.publicKeyUncompressed _) answered rfl
      have proved (attestation : Bytes) := answered_next env _ (.generateZkProof attestation _) attested rfl
      dsimp only
      repeat' split
      all_goals first | exact attested | exact proved _

theorem prepare_attempts_answered (attempts : Nat) (calls : List TeeCall) (answered : env.Answered calls) :
    env.Answered (prepareAttempts env manager attempts calls).2 := by
  induction attempts generalizing calls with
  | zero => exact answered
  | succ attempts ih =>
      have prepared := prepare_register_answered env manager calls answered
      unfold prepareAttempts
      generalize prepareRegisterService env manager calls = outcome at prepared
      obtain ⟨result, reached⟩ := outcome
      cases result with
      | ok data => exact prepared
      | error reason => exact ih reached prepared

theorem register_attempts_answered (journalBytes proofBytes : Bytes) (attempts : Nat) (calls : List TeeCall)
    (answered : env.Answered calls) : env.Answered (registerAttempts env manager journalBytes proofBytes attempts calls).2 := by
  induction attempts generalizing calls with
  | zero => exact answered
  | succ attempts ih =>
      have registered := answered_next env calls (.registerService journalBytes proofBytes manager.onChainTeeType.byte _) answered rfl
      have checked := verify_answered env manager _ registered
      simp only [registerAttempts]
      cases answer : env.registerService calls journalBytes proofBytes manager.onChainTeeType.byte with
      | error reason =>
          rw [answer] at registered
          exact ih _ registered
      | ok done =>
          rw [answer] at checked
          generalize verifyRegistrationOnChain env manager
            (calls ++ [.registerService journalBytes proofBytes manager.onChainTeeType.byte (.ok done)]) = outcome at checked
          obtain ⟨result, reached⟩ := outcome
          cases result with
          | error err => exact checked
          | ok present =>
              cases present with
              | true => exact checked
              | false => exact ih reached checked

theorem initialize_answered : env.Answered (initializeKeyManager env manager).2 := by
  have none : env.Answered [] := fun _ _ called => by cases called
  have asked := verify_answered env manager [] none
  unfold initializeKeyManager
  generalize verifyRegistrationOnChain env manager [] = outcome at asked
  obtain ⟨result, reached⟩ := outcome
  cases result with
  | error err => exact asked
  | ok present =>
      cases present with
      | true => exact asked
      | false =>
          have prepared := prepare_attempts_answered env manager manager.maxRegisterAttempts reached asked
          dsimp only
          generalize prepareAttempts env manager manager.maxRegisterAttempts reached = outcome at prepared
          obtain ⟨data, grown⟩ := outcome
          cases data with
          | none => exact prepared
          | some data => exact register_attempts_answered env manager data.1 data.2 manager.maxRegisterAttempts grown prepared

end Manager

-- The first attestation and the first registration fail, and the second registration is not on the chain yet when it is asked for.
def flakyEnvironment : TeeEnvironment where
  registeredServices calls _ _ := .ok (decide (3 ≤ calls.countP TeeCall.registers))
  registerService calls _ _ _ := if calls.countP TeeCall.registers = 0 then .error "nonce too low" else .ok ()
  getAttestation calls _ := if calls.countP TeeCall.attests = 0 then .error "connection refused" else .ok [0x84]
  generateZkProof _ attestation := .ok (attestation ++ [1], [2])
  encodeMockVerifierJournal pubKey := pubKey

def flakyRegistrar : Registrar := ⟨3, .nitro, Vector.replicate 20 1, List.replicate 65 4, by decide, by decide⟩

def flakyCalls : List TeeCall :=
  [flakyRegistrar.query (.ok false),
    .getAttestation (List.replicate 65 4) (.error "connection refused"),
    .getAttestation (List.replicate 65 4) (.ok [0x84]),
    .generateZkProof [0x84] (.ok ([0x84, 1], [2])),
    .registerService [0x84, 1] [2] 0 (.error "nonce too low"),
    .registerService [0x84, 1] [2] 0 (.ok ()),
    flakyRegistrar.query (.ok false),
    .registerService [0x84, 1] [2] 0 (.ok ()),
    flakyRegistrar.query (.ok true)]

end Cas
