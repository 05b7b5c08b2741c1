import Jitong.TokenManager
import Jitong.Lib.Run

/-!
The tokens in memory against those in the store, over any sequence of operations with a store that
may refuse any change.
-/

namespace Jitong

open Lib TokenManager

inductive TokenCall
  | loadFromStore (account : Bytes)
  | adopt (session : TokenSession)
  | rotate (accessToken refreshToken : Bytes) (accessExpireAt refreshExpireAt : Int)
      (sessionId : Bytes)
  | beginRefresh
  | completeRefresh
  | revokeFamily

def TokenSession.Loadable (session : TokenSession) : Prop :=
  session.valid = true ∧ session.sessionId ≠ [] ∧
    (0 < session.accessExpireAt ∧ session.accessExpireAt ≤ maxInt64) ∧
    (0 < session.refreshExpireAt ∧ session.refreshExpireAt ≤ maxInt64)

namespace TokenManager

def call (env : Surroundings) (manager : TokenManager) : TokenCall → Bool × TokenManager
  | .loadFromStore account => manager.loadFromStore env account
  | .adopt session => manager.adopt env session
  | .rotate accessToken refreshToken accessExpireAt refreshExpireAt sessionId =>
      manager.rotate env accessToken refreshToken accessExpireAt refreshExpireAt sessionId
  | .beginRefresh => ((manager.beginRefresh env).1 ≠ [], (manager.beginRefresh env).2)
  | .completeRefresh => manager.completeRefresh env
  | .revokeFamily => manager.revokeFamily env

def next (manager : TokenManager) (event : Surroundings × TokenCall) : TokenManager :=
  (manager.call event.1 event.2).2

end TokenManager

/-! Numbers as the store keeps them. -/

def digitBytes (number : Nat) : Bytes :=
  (Nat.toDigits 10 number).map fun digit => UInt8.ofNat digit.toNat

theorem digitBytes_small {digit : Nat} (small : digit < 10) :
    digitBytes digit = [0x30 + UInt8.ofNat digit] := by
  rw [digitBytes, Nat.toDigits_of_lt_base small]
  exact (by decide : ∀ digit < 10, [UInt8.ofNat (Nat.digitChar digit).toNat] =
    [(0x30 : UInt8) + UInt8.ofNat digit]) digit small

theorem digitBytes_large {number : Nat} (large : 10 ≤ number) :
    digitBytes number = digitBytes (number / 10) ++ digitBytes (number % 10) := by
  rw [digitBytes, digitBytes, digitBytes, Nat.toDigits_of_base_le (by decide) large,
    Nat.toDigits_of_lt_base (Nat.mod_lt number (by decide)), List.map_append]

theorem digitBytes_spec (number : Nat) :
    digitBytes number ≠ [] ∧ (∀ digit ∈ digitBytes number, isDecimal digit = true) ∧
      ∀ value : Int, (digitBytes number).foldl
        (fun value digit => 10 * value + (digit.toNat - 0x30 : Int)) value =
          10 ^ (digitBytes number).length * value + number := by
  induction number using Nat.strong_induction_on with
  | _ number ih =>
      have small {digit : Nat} (below : digit < 10) :
          isDecimal (0x30 + UInt8.ofNat digit) = true ∧
            ((0x30 + UInt8.ofNat digit).toNat : Int) - 0x30 = digit :=
        (by decide : ∀ digit < 10, isDecimal (0x30 + UInt8.ofNat digit) = true ∧
          ((0x30 + UInt8.ofNat digit).toNat : Int) - 0x30 = (digit : Nat)) digit below
      by_cases large : 10 ≤ number
      · obtain ⟨some, digits, value⟩ := ih (number / 10) (by omega)
        have last := small (Nat.mod_lt number (by decide))
        rw [digitBytes_large large, digitBytes_small (Nat.mod_lt number (by decide))]
        refine ⟨by simp, ?_, fun start => ?_⟩
        · intro digit member
          rcases List.mem_append.mp member with member | member
          · exact digits digit member
          · exact List.mem_singleton.mp member ▸ last.1
        · rw [List.foldl_append, value, List.foldl_cons, List.foldl_nil, last.2, List.length_append,
            List.length_singleton, pow_succ]
          have split : (number : Int) = 10 * (number / 10 : Nat) + (number % 10 : Nat) := by
            omega
          rw [split]
          ring
      · have own := small (show number < 10 by omega)
        rw [digitBytes_small (by omega)]
        refine ⟨by simp, ?_, fun start => ?_⟩
        · intro digit member
          exact List.mem_singleton.mp member ▸ own.1
        · rw [List.foldl_cons, List.foldl_nil, own.2, List.length_singleton, pow_one]

theorem isDecimal_plain {digit : UInt8} (decimal : isDecimal digit = true) :
    isSpace digit = false ∧ digit ≠ 0x2B := by
  simp only [isDecimal, isSpace, UInt8.le_iff_toNat_le, ← UInt8.toNat_inj, decide_eq_true_eq,
    decide_eq_false_iff_not, ne_eq, UInt8.reduceToNat] at decimal ⊢
  omega

def suffixes : List Bytes := tokenSuffixes ++ [kRefreshReqId]

def KeyStore.SameFor (account : Bytes) (store other : KeyStore) : Prop :=
  ∀ suffix ∈ suffixes, store.values (keyOf account suffix) = other.values (keyOf account suffix)

namespace KeyStore.SameFor

variable {account : Bytes} {store other : KeyStore}

theorem storedSession (same : SameFor account store other) :
    storedSession store account = Jitong.storedSession other account := by
  have access := same kAccess (by decide)
  have refresh := same kRefresh (by decide)
  have accessExp := same kAccessExp (by decide)
  have refreshExp := same kRefreshExp (by decide)
  have sessionId := same kSession (by decide)
  simp only [Jitong.storedSession, access, refresh, accessExp, refreshExp, sessionId]

theorem storedRequestId (same : SameFor account store other) :
    storedRequestId store account = Jitong.storedRequestId other account := by
  simp only [Jitong.storedRequestId, same kRefreshReqId (by decide)]

theorem apply (same : SameFor account store other) (puts : List (Bytes × Bytes))
    (removes : List Bytes) : SameFor account (store.apply puts removes) (other.apply puts removes) := by
  intro suffix known
  simp only [KeyStore.apply, same suffix known]

end KeyStore.SameFor

namespace TokenManager

structure Mirrors (manager : TokenManager) : Prop where
  session : manager.session.Loadable →
    storedSession manager.store manager.session.account = some manager.session
  flag : manager.refreshInFlight = decide (manager.refreshRequestId ≠ [])

variable (env : Surroundings) {manager : TokenManager}

def memory (manager : TokenManager) : TokenSession × Bool × Bytes × UInt64 :=
  (manager.session, manager.refreshInFlight, manager.refreshRequestId, manager.requestSeq)

end TokenManager

namespace TokenManager

def after (store : KeyStore) (events : List (Surroundings × TokenCall)) : TokenManager :=
  events.foldl next { store }

end TokenManager

namespace TokenManager

end TokenManager

end Jitong
