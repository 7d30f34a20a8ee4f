import GalacticBridge.Table

/-! The records the state stores. The events and lifecycle modules that declare them are not
among the sources, so their fields follow the spec's data model; a field that no function of
the model reads is left out. `increment_retries` advances a retry counter by one and
`reset_retries` clears it; `CandidNat` is `candid::Nat`, and `BigUint::to_biguint` clones its
receiver and never fails. -/

namespace GalacticBridge

structure Retry where
  retries : Nat
deriving DecidableEq, Repr, Inhabited

namespace Retry

def incrementRetries (retry : Retry) : Retry := ⟨retry.retries + 1⟩

def resetRetries (_ : Retry) : Retry := ⟨0⟩

end Retry

structure SolanaSignatureRange where
  beforeSolSig : String
  untilSolSig : String
  retry : Retry
deriving DecidableEq, Repr, Inhabited

structure SolanaSignature where
  solSig : String
  retry : Retry
deriving DecidableEq, Repr, Inhabited

structure DepositEvent where
  solSig : String
  depositId : UInt64
  retry : Retry
deriving DecidableEq, Repr, Inhabited

structure Coupon where
  burnId : UInt64
  recipientSolAddr : String
  amount : Nat
  messageHash : List UInt8
  signature : List UInt8
  signerPublicKey : List UInt8
deriving DecidableEq, Repr, Inhabited

structure WithdrawalEvent where
  burnId : UInt64
  coupon : Option Coupon
  retry : Retry
deriving DecidableEq, Repr, Inhabited

def WithdrawalEvent.getBurnId (withdrawal : WithdrawalEvent) : UInt64 := withdrawal.burnId

inductive TaskType
  | getLatestSignature
  | scrapSignatureRanges
  | scrapSignatures
  | mintGSol
deriving DecidableEq, Repr, Inhabited

structure Principal where
  bytes : List UInt8
deriving DecidableEq, Repr, Inhabited

structure EcdsaPublicKeyResponse where
  publicKey : List UInt8
  chainCode : List UInt8
deriving DecidableEq, Repr, Inhabited

structure SolanaRpcUrl where
  url : String
deriving DecidableEq, Repr, Inhabited

structure CandidNat where
  val : Nat
deriving DecidableEq, Repr, Inhabited

def toBiguint (amount : Nat) : Option Nat := some amount

structure InitArg where
  solanaRpcUrl : SolanaRpcUrl
  solanaContractAddress : String
  solanaInitialSignature : String
  ecdsaKeyName : String
  minimumWithdrawalAmount : CandidNat
deriving DecidableEq, Repr, Inhabited

structure UpgradeArg where
  solanaRpcUrl : Option SolanaRpcUrl
  solanaContractAddress : Option String
  solanaInitialSignature : Option String
  ecdsaKeyName : Option String
  minimumWithdrawalAmount : Option CandidNat
deriving DecidableEq, Repr, Inhabited

end GalacticBridge
