import Jitong.ServerRuns

/-!
What becomes of a refresh token that was used before. `rotateRefresh` has an
answer for a retry (the pair that was granted the first time) and one for a
replay (the family is revoked), but `onTokenRefresh` asks `auth_sessions` for
the token first, and a used token is not there.
-/

namespace Jitong

open Lib

namespace Server

theorem dispatchPacket_refresh {crypto : Crypto} {env : Env} {server : Server} {conn : ConnId}
    {session : Session} (live : server.sessions conn = some session) (rq : RefreshTokenRq) :
    server.dispatchPacket crypto env conn (.tokenRefresh rq) =
      (server.touchSession env.now session).onTokenRefresh crypto env conn rq := by
  have maintenance : session.accessExpired (ClientPacket.tokenRefresh rq).type env.now = false := by
    simp [Session.accessExpired, ClientPacket.type, authMaintenance]
  rw [dispatchPacket, live]
  simp only [maintenance, Bool.false_eq_true, if_false]
  rfl

theorem refreshProof_spent {crypto : Crypto} {server : Server} {ledger : Ledger}
    (invariant : StoreInvariant crypto ⟨server.tokens, ledger⟩) {rq : RefreshTokenRq}
    {used : RefreshHistoryRow} (member : used ∈ server.tokens.db.history.rows)
    (spent : used.tokenHash = crypto.hashText rq.refreshToken) (session : Session) :
    server.refreshProof crypto session rq = false := by
  have absent := invariant.findByRefreshHash_spent member spent
  simp only [refreshProof, absent, Bool.and_false]

theorem onTokenRefresh_spent {crypto : Crypto} {env : Env} {server : Server} {ledger : Ledger}
    {conn : ConnId} {session : Session} {rq : RefreshTokenRq} {used : RefreshHistoryRow}
    (invariant : StoreInvariant crypto ⟨server.tokens, ledger⟩)
    (live : server.sessions conn = some session) (member : used ∈ server.tokens.db.history.rows)
    (spent : used.tokenHash = crypto.hashText rq.refreshToken) :
    server.onTokenRefresh crypto env conn rq =
      server.deliver conn (.tokenRefreshRs { result := 1 }) := by
  simp [onTokenRefresh, live, refreshProof_spent invariant member spent]

/-! A replay. -/

def FamilyPunished (server : Server) (familyId : Text) (userId : Int32) : Prop :=
  (∀ row ∈ server.tokens.db.sessions.rows, row.familyId = familyId → row.revoked = true) ∧
  ∀ target ∈ server.presenceGet userId,
    ((server.sessions target).map (·.toldToClose)).getD true = true

instance (server : Server) (familyId : Text) (userId : Int32) :
    Decidable (server.FamilyPunished familyId userId) :=
  inferInstanceAs (Decidable (_ ∧ _))

theorem familyPunished_deliver (server : Server) (conn : ConnId) (packet : ServerPacket)
    (familyId : Text) (userId : Int32) :
    (server.deliver conn packet).FamilyPunished familyId userId ↔
      server.FamilyPunished familyId userId := by
  have online : (server.deliver conn packet).presenceGet userId = server.presenceGet userId :=
    server.presenceGet_modify conn userId fun _ => rfl
  have told (target : ConnId) :
      ((server.deliver conn packet).sessions target).map (·.toldToClose) =
        (server.sessions target).map (·.toldToClose) :=
    server.modify_map conn target (·.toldToClose) fun _ => rfl
  simp only [FamilyPunished, online, told]
  rfl

/-- A token that was rotated out of the family comes back under a new request id,
signed by the device that the family belongs to. -/
structure ReplayedRefresh (crypto : Crypto) (env : Env) (server : Server) (conn : ConnId)
    (rq : RefreshTokenRq) (familyId : Text) (userId : Int32) : Prop where
  spent : ∃ used ∈ server.tokens.db.history.rows,
    used.familyId = familyId ∧ used.tokenHash = crypto.hashText rq.refreshToken
  uncached : (server.tokens.dropExpired env.now).cached rq.requestId = none
  owner : ∃ row ∈ server.tokens.db.sessions.rows,
    row.familyId = familyId ∧ row.userId = userId ∧ row.deviceId.bytes = rq.deviceId
  signed : ∃ session ∈ server.sessions conn,
    ∃ publicKey ∈ server.getDevicePublicKey userId rq.deviceId,
      verifyDevice crypto session (ascii "token-refresh") rq.deviceId
        (rq.refreshToken ++ 0 :: rq.requestId) publicKey rq.deviceSignature false = true

/-- The replay is answered with a refusal and nothing else: the family is
punished afterwards only if it had been before. -/
theorem familyPunished_iff {crypto : Crypto} (collisionFree : Function.Injective crypto.sha256)
    {events : List ServerEvent} {state : ServerState} (run : ServerRun crypto events state)
    {env : Env} {conn : ConnId} {rq : RefreshTokenRq} {familyId : Text} {userId : Int32}
    (replay : ReplayedRefresh crypto env state.server conn rq familyId userId) :
    (state.server.onTokenRefresh crypto env conn rq).FamilyPunished familyId userId ↔
      state.server.FamilyPunished familyId userId := by
  obtain ⟨used, member, _, spent⟩ := replay.spent
  obtain ⟨session, live, _⟩ := replay.signed
  rw [onTokenRefresh_spent (run.storeInvariant collisionFree) live member spent]
  exact familyPunished_deliver ..

theorem aliceReplay_replayed :
    ReplayedRefresh recordedCrypto (countingEnv 1700000090 7)
      (ServerState.after recordedCrypto aliceRefreshes).server 0 aliceReplay
      (cstr (numberedToken 2)) 1 where
  spent := by decide +kernel
  uncached := by decide +kernel
  owner := by decide +kernel
  signed := by decide +kernel

theorem aliceRefreshes_run :
    ServerRun recordedCrypto aliceRefreshes (.after recordedCrypto aliceRefreshes) :=
  .of_fresh (by decide +kernel)

theorem familyPunished_iff_aliceReplay :
    ((ServerState.after recordedCrypto aliceRefreshes).server.onTokenRefresh recordedCrypto
        (countingEnv 1700000090 7) 0 aliceReplay).FamilyPunished (cstr (numberedToken 2)) 1 ↔
      (ServerState.after recordedCrypto aliceRefreshes).server.FamilyPunished
        (cstr (numberedToken 2)) 1 :=
  familyPunished_iff recordedCrypto_injective aliceRefreshes_run aliceReplay_replayed

/-- Alice's replay goes unpunished. -/
theorem aliceReplay_unpunished :
    ReplayedRefresh recordedCrypto (countingEnv 1700000090 7)
      (ServerState.after recordedCrypto aliceRefreshes).server 0 aliceReplay
      (cstr (numberedToken 2)) 1 ∧
    ¬ ((ServerState.after recordedCrypto aliceRefreshes).server.onTokenRefresh recordedCrypto
        (countingEnv 1700000090 7) 0 aliceReplay).FamilyPunished (cstr (numberedToken 2)) 1 :=
  ⟨aliceReplay_replayed, by decide +kernel⟩

end Server

/-! A retry. -/

theorem ServerStep.history_kept {crypto : Crypto} {before after : ServerState}
    {event : ServerEvent} (taken : ServerStep crypto before event after) :
    before.server.tokens.db.history.rows ⊆ after.server.tokens.db.history.rows := by
  obtain ⟨ops, called⟩ := taken.tokens
  have kept : ∀ earlier op later, TokenStep crypto earlier op later →
      earlier.service.db.history.rows ⊆ later.service.db.history.rows := by
    intro earlier op later step
    obtain ⟨added, grown, _⟩ := step.history
    rw [grown]
    exact List.subset_append_left _ _
  exact called.invariant (List.Subset.refl _) fun _ _ _ earlier step =>
    List.Subset.trans earlier (kept _ _ _ step)

namespace Server

theorem sentTo_kickRevoked (server : Server) (revokedUserId : Int32) (conn : ConnId) :
    ∃ new, (server.kickRevoked revokedUserId).sentTo conn = new ++ server.sentTo conn := by
  unfold kickRevoked
  split
  · split
    · rename_i target _
      obtain ⟨new, delivered⟩ := server.sentTo_deliver target conn .kickedOffline
      have closed : ((server.deliver target .kickedOffline).closeAfterWrite target).sentTo conn =
          (server.deliver target .kickedOffline).sentTo conn :=
        sentTo_modify _ _ _ fun _ => rfl
      exact ⟨new, closed.trans delivered⟩
    · exact ⟨[], rfl⟩
  · exact ⟨[], rfl⟩

theorem kickRevoked_isSome (server : Server) (revokedUserId : Int32) (conn : ConnId) :
    ((server.kickRevoked revokedUserId).sessions conn).isSome = (server.sessions conn).isSome := by
  unfold kickRevoked
  split
  · split
    · simp [closeAfterWrite, close, deliver]
    · rfl
  · rfl

theorem onTokenRefresh_granted {crypto : Crypto} {env : Env} {server : Server} {conn : ConnId}
    {session : Session} {rq : RefreshTokenRq} {rs : RefreshTokenRs}
    (live : server.sessions conn = some session)
    (answered : server.deliveredSince (server.onTokenRefresh crypto env conn rq) conn =
      [.tokenRefreshRs rs]) (success : rs.result = 0) :
    ∃ record pair,
      server.tokens.db.findByRefreshHash (crypto.tokenHash rq.refreshToken) = some record ∧
      (server.tokens.rotateRefresh crypto env rq.refreshToken rq.deviceId rq.requestId).1 =
        .granted pair ∧
      (server.onTokenRefresh crypto env conn rq).tokens =
        (server.tokens.rotateRefresh crypto env rq.refreshToken rq.deviceId rq.requestId).2 := by
  have exist : (server.sessions conn).isSome := by simp [live]
  have refused {middle : Server} {new : List ServerPacket}
      (kept : (middle.sessions conn).isSome) (grown : middle.sentTo conn = new ++ server.sentTo conn)
      (same : server.onTokenRefresh crypto env conn rq =
        middle.deliver conn (.tokenRefreshRs { result := 1 })) : False := by
    have newest := sentTo_deliver_self kept (.tokenRefreshRs { result := 1 })
    rw [grown, ← same, ← List.cons_append] at newest
    rw [deliveredSince_of_append _ newest, List.cons.injEq, ServerPacket.tokenRefreshRs.injEq]
      at answered
    rw [← answered.1] at success
    exact absurd success (by decide)
  have core := congrArg Prod.fst (onTokenRefresh_core crypto env live rq)
  by_cases proven : server.refreshProof crypto session rq
  · obtain ⟨record, current, _⟩ := refreshProof_record proven
    rcases rotated : server.tokens.rotateRefresh crypto env rq.refreshToken rq.deviceId
      rq.requestId with ⟨outcome, tokens⟩
    cases outcome with
    | granted pair =>
        refine ⟨record, pair, current, rfl, ?_⟩
        rw [if_pos proven, rotated] at core
        refine core.trans ?_
        dsimp only
        split <;> rfl
    | refused revokedUserId =>
        obtain ⟨new, grown⟩ := sentTo_kickRevoked { server with tokens } revokedUserId conn
        have kept := kickRevoked_isSome { server with tokens } revokedUserId conn
        exact (refused (kept.trans exist) grown (by simp [onTokenRefresh, live, proven, rotated])).elim
    | thrown =>
        have silent : (server.onTokenRefresh crypto env conn rq).sentTo conn =
            [] ++ server.sentTo conn := by
          simp only [onTokenRefresh, live, if_pos proven, rotated]
          exact sentTo_modify _ conn conn fun _ => rfl
        rw [deliveredSince_of_append _ silent] at answered
        simp at answered
  · have unchanged : server.sentTo conn = [] ++ server.sentTo conn := rfl
    exact (refused exist unchanged (by simp [onTokenRefresh, live, proven])).elim

def NoneRevoked (before after : Server) : Prop :=
  ∀ row ∈ before.tokens.db.sessions.rows, row.revoked = false →
    ∃ kept ∈ after.tokens.db.sessions.rows, kept.sessionId = row.sessionId ∧ kept.revoked = false

instance (before after : Server) : Decidable (NoneRevoked before after) :=
  inferInstanceAs (Decidable (∀ row ∈ before.tokens.db.sessions.rows, _))

def isRefresh : ServerEvent → Bool
  | .packet _ _ (.tokenRefresh _) => true
  | _ => false

/-- A refresh was answered with success, and the same request comes again, within
the time and the number of refreshes that the cache remembers it for, on a
connection that it is signed for. -/
structure RetriedRefresh (crypto : Crypto) (before granted retried : ServerState)
    (between : List ServerEvent) (firstEnv secondEnv : Env) (firstConn secondConn : ConnId)
    (first second : RefreshTokenRq) (rs : RefreshTokenRs) : Prop where
  taken : ServerStep crypto before (.packet firstEnv firstConn (.tokenRefresh first)) granted
  answered : before.server.deliveredSince granted.server firstConn = [.tokenRefreshRs rs]
  success : rs.result = 0
  run : Run (ServerStep crypto) granted between retried
  same : second.refreshToken = first.refreshToken ∧ second.deviceId = first.deviceId ∧
    second.requestId = first.requestId
  early : firstEnv.now ≤ secondEnv.now ∧ secondEnv.now < firstEnv.now + 120
  few : between.countP isRefresh < 1024
  unrevoked : NoneRevoked granted.server retried.server
  signed : ∃ session ∈ retried.server.sessions secondConn,
    ∃ row ∈ retried.server.tokens.db.sessions.rows, row.sessionId.bytes = rs.sessionId ∧
    ∃ publicKey ∈ retried.server.getDevicePublicKey row.userId second.deviceId,
      verifyDevice crypto session (ascii "token-refresh") second.deviceId
        (second.refreshToken ++ 0 :: second.requestId) publicKey second.deviceSignature false = true

structure RetryAnswered (before after : Server) (conn : ConnId) (rs : RefreshTokenRs) : Prop where
  same : before.deliveredSince after conn = [.tokenRefreshRs rs]
  unrevoked : NoneRevoked before after

theorem granted_spent {crypto : Crypto} (collisionFree : Function.Injective crypto.sha256)
    {events : List ServerEvent} {before granted : ServerState}
    (run : ServerRun crypto events before)
    {env : Env} {conn : ConnId} {rq : RefreshTokenRq} {rs : RefreshTokenRs}
    (taken : ServerStep crypto before (.packet env conn (.tokenRefresh rq)) granted)
    (answered : before.server.deliveredSince granted.server conn = [.tokenRefreshRs rs])
    (success : rs.result = 0) :
    ∃ used ∈ granted.server.tokens.db.history.rows,
      used.tokenHash = crypto.hashText rq.refreshToken := by
  cases live : before.server.sessions conn with
  | none =>
      have unchanged : granted.server = before.server := by
        rw [taken.2.1, ServerEvent.apply, dispatchPacket, live]
      simp [unchanged, deliveredSince] at answered
  | some session =>
      have touched : (before.server.touchSession env.now session).sessions conn = some session := by
        simpa using live
      have applied : granted.server =
          (before.server.touchSession env.now session).onTokenRefresh crypto env conn rq := by
        rw [taken.2.1, ServerEvent.apply, dispatchPacket_refresh live]
      have view : before.server.sentTo conn =
          (before.server.touchSession env.now session).sentTo conn := by
        simp [sentTo]
      rw [applied, deliveredSince, view] at answered
      obtain ⟨record, pair, current, given, tokens⟩ :=
        onTokenRefresh_granted touched answered success
      rw [touchSession_tokens] at current given tokens
      have invariant := run.storeInvariant collisionFree
      obtain ⟨row, _, rotation⟩ := StoreInvariant.rotation_of_current invariant current given
      have history := rotation.history
      rw [applied, tokens]
      refine ⟨_, history ▸ List.mem_append_right _ (List.mem_singleton.mpr rfl), ?_⟩
      exact rotation.presented

/-- A retry is refused: the token is used by then, and the cached answer is out of
reach behind the check that it is not. -/
theorem retry_refused {crypto : Crypto} (collisionFree : Function.Injective crypto.sha256)
    {events between : List ServerEvent} {before granted retried : ServerState}
    (run : ServerRun crypto events before) {firstEnv secondEnv : Env}
    {firstConn secondConn : ConnId} {first second : RefreshTokenRq} {rs : RefreshTokenRs}
    (retry : RetriedRefresh crypto before granted retried between firstEnv secondEnv firstConn
      secondConn first second rs) :
    ¬ RetryAnswered retried.server
      ((ServerEvent.packet secondEnv secondConn (.tokenRefresh second)).apply crypto retried.server)
      secondConn rs := by
  obtain ⟨used, member, spent⟩ :=
    granted_spent collisionFree run retry.taken retry.answered retry.success
  have kept : used ∈ retried.server.tokens.db.history.rows :=
    retry.run.invariant member fun _ _ _ earlier taken => taken.history_kept earlier
  have invariant : StoreInvariant crypto retried.tokens :=
    ServerRun.storeInvariant ((run.snoc retry.taken).append retry.run) collisionFree
  obtain ⟨session, live, _⟩ := retry.signed
  have touched : (retried.server.touchSession secondEnv.now session).sessions secondConn =
      some session := by
    simpa using live
  have refused : (ServerEvent.packet secondEnv secondConn (.tokenRefresh second)).apply crypto
      retried.server = (retried.server.touchSession secondEnv.now session).deliver secondConn
        (.tokenRefreshRs { result := 1 }) := by
    rw [ServerEvent.apply, dispatchPacket_refresh live]
    have sound : StoreInvariant crypto
        ⟨(retried.server.touchSession secondEnv.now session).tokens, retried.ledger⟩ := by
      rw [touchSession_tokens]
      exact invariant
    refine onTokenRefresh_spent sound touched ?_ (retry.same.1 ▸ spent)
    rw [touchSession_tokens]
    exact kept
  intro answered
  have newest := sentTo_deliver_self (Option.isSome_iff_exists.mpr ⟨session, touched⟩)
    (.tokenRefreshRs { result := 1 })
  have view : (retried.server.touchSession secondEnv.now session).sentTo secondConn =
      retried.server.sentTo secondConn := by
    simp [sentTo]
  rw [view, ← refused] at newest
  have same := (deliveredSince_of_append [_] newest).symm.trans answered.same
  simp only [List.cons.injEq, ServerPacket.tokenRefreshRs.injEq, and_true] at same
  rw [← same] at retry
  exact absurd retry.success (by decide)

def aliceRefreshEvent : ServerEvent :=
  .packet (countingEnv 1700000060 5) 0 (.tokenRefresh aliceRefresh)

def aliceGranted : ServerState :=
  (ServerState.after recordedCrypto aliceLogsIn).next recordedCrypto aliceRefreshEvent

def aliceRefreshRs : RefreshTokenRs where
  result := 0
  accessToken := numberedToken 5
  refreshToken := numberedToken 6
  accessTokenExpireAt := 1700000960
  refreshTokenExpireAt := 1702592060
  sessionId := numberedToken 1

theorem aliceRetry :
    RetriedRefresh recordedCrypto (.after recordedCrypto aliceLogsIn) aliceGranted aliceGranted []
      (countingEnv 1700000060 5) (countingEnv 1700000090 7) 0 0 aliceRefresh aliceRefresh
      aliceRefreshRs where
  taken := ServerStep.of_fresh (by decide +kernel)
  answered := by decide +kernel
  success := rfl
  run := .nil
  same := ⟨rfl, rfl, rfl⟩
  early := by decide
  few := by decide
  unrevoked := by decide +kernel
  signed := by decide +kernel

theorem retry_refused_aliceRetry :
    ¬ RetryAnswered aliceGranted.server
      ((ServerEvent.packet (countingEnv 1700000090 7) 0 (.tokenRefresh aliceRefresh)).apply
        recordedCrypto aliceGranted.server) 0 aliceRefreshRs :=
  retry_refused recordedCrypto_injective (.of_fresh (by decide +kernel)) aliceRetry

/-- Alice's retry is not answered like the request it repeats. -/
theorem aliceRetry_unanswered :
    RetriedRefresh recordedCrypto (.after recordedCrypto aliceLogsIn) aliceGranted aliceGranted []
      (countingEnv 1700000060 5) (countingEnv 1700000090 7) 0 0 aliceRefresh aliceRefresh
      aliceRefreshRs ∧
    ¬ RetryAnswered aliceGranted.server
      ((ServerEvent.packet (countingEnv 1700000090 7) 0 (.tokenRefresh aliceRefresh)).apply
        recordedCrypto aliceGranted.server) 0 aliceRefreshRs :=
  ⟨aliceRetry, fun answered => absurd answered.same (by decide +kernel)⟩

end Server

end Jitong
