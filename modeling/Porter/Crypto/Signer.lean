import Mathlib.Logic.Basic

/-!
# Signatures

A signature scheme over public keys `π`, messages `μ` and signatures `σ` is its verification
function.
-/
namespace Porter.Crypto

variable {π μ σ : Type}

structure Signer (verify : π → μ → σ → Bool) where
  publicKey : π
  sign : μ → σ
  verifies : ∀ message, verify publicKey message (sign message) = true

def idealVerify [DecidableEq π] [DecidableEq μ] (key : π) (message : μ) (signature : π × μ) :
    Bool :=
  signature = (key, message)

def idealSigner [DecidableEq π] [DecidableEq μ] (key : π) :
    Signer (idealVerify (π := π) (μ := μ)) where
  publicKey := key
  sign message := (key, message)
  verifies := by simp [idealVerify]

end Porter.Crypto
