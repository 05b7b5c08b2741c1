import Jitong.ServerRuns

/-!
Who an authenticated connection speaks for. `bindAuth` takes its values from
three places: a login sets what it has just issued, a token login what the
token's session says, and a refresh keeps the user id that the connection has
and sets the session of the token that was presented.
-/

namespace Jitong

open Lib

/-- The triple of a binding is that of a row of `auth_sessions`. -/
def Binding.Stored (db : AuthTables) (binding : Binding) : Prop :=
  ∃ row ∈ db.sessions.rows, row.userId = binding.userId ∧
    row.sessionId.bytes = binding.authSessionId ∧ row.deviceId.bytes = binding.deviceId

instance (db : AuthTables) (binding : Binding) : Decidable (binding.Stored db) :=
  inferInstanceAs (Decidable (∃ row ∈ db.sessions.rows, _))

theorem TokenChange.row_kept {crypto : Crypto} {before after : TokenService} {mint : Option Mint}
    (change : TokenChange crypto before after mint) {row : AuthSessionRecord}
    (stored : row ∈ before.db.sessions.rows) :
    ∃ kept ∈ after.db.sessions.rows, kept.userId = row.userId ∧ kept.sessionId = row.sessionId ∧
      kept.deviceId = row.deviceId := by
  cases change with
  | quiet tables _ =>
      rcases tables with same | ⟨hit, same⟩
      · exact ⟨row, same ▸ stored, rfl, rfl, rfl⟩
      · rw [same]
        refine ⟨_, List.mem_map_of_mem stored, ?_⟩
        split <;> exact ⟨rfl, rfl, rfl⟩
  | issued _ _ sessions =>
      rw [sessions]
      exact ⟨row, List.mem_append_left _ stored, rfl, rfl, rfl⟩
  | rotated rotation =>
      rw [rotation.sessions]
      refine ⟨_, List.mem_map_of_mem stored, ?_⟩
      split
      · rename_i same
        subst row
        exact ⟨rfl, rfl, rfl⟩
      · exact ⟨rfl, rfl, rfl⟩

theorem Binding.Stored.kept {crypto : Crypto} {before after : TokenService} {mint : Option Mint}
    {binding : Binding} (stored : binding.Stored before.db)
    (change : TokenChange crypto before after mint) : binding.Stored after.db := by
  obtain ⟨row, member, userId, sessionId, deviceId⟩ := stored
  obtain ⟨kept, keptMember, sameUser, sameSession, sameDevice⟩ := change.row_kept member
  exact ⟨kept, keptMember, sameUser.trans userId, by rw [sameSession, sessionId],
    by rw [sameDevice, deviceId]⟩

namespace Server

def Identified (server : Server) : Prop :=
  ∀ conn session, server.sessions conn = some session → session.authenticated = true →
    session.binding.Stored server.tokens.db

/-- What a packet must not do for the connection to keep its identity: log in
under a device id that a `TEXT` column cannot hold, or refresh, on an
authenticated connection, the session of another user. -/
def KeepsIdentity (crypto : Crypto) (env : Env) (server : Server) (conn : ConnId)
    (session : Session) : ClientPacket → Prop
  | .login rq => (server.checkLogin crypto env conn session rq).1.isSome → (0 : UInt8) ∉ rq.deviceId
  | .tokenRefresh rq =>
      session.authenticated = true → server.refreshProof crypto session rq = true →
      ∀ record ∈ server.tokens.db.findByRefreshHash (crypto.tokenHash rq.refreshToken),
        record.userId = session.userId
  | _ => True

instance (crypto : Crypto) (env : Env) (server : Server) (conn : ConnId) (session : Session)
    (request : ClientPacket) :
    Decidable (server.KeepsIdentity crypto env conn session request) :=
  match request with
  | .login _ => inferInstanceAs (Decidable (_ → _))
  | .tokenRefresh _ => inferInstanceAs (Decidable (_ → _ → _))
  | .tokenLogin _ | .logout _ | .chatInfo _ | .friendOffline | .heartbeat | .other _ =>
      inferInstanceAs (Decidable True)

end Server

def ServerEvent.KeepsIdentity (crypto : Crypto) (server : Server) : ServerEvent → Prop
  | .packet env conn request =>
      ∀ session ∈ server.sessions conn,
        (server.touchSession env.now session).KeepsIdentity crypto env conn session request
  | _ => True

instance (crypto : Crypto) (server : Server) (event : ServerEvent) :
    Decidable (event.KeepsIdentity crypto server) :=
  match event with
  | .packet _ conn _ => inferInstanceAs (Decidable (∀ session ∈ server.sessions conn, _))
  | .connect .. | .closed _ | .destroyed _ | .posted _ | .directory .. | .upload .. =>
      inferInstanceAs (Decidable True)

namespace Server

theorem issued_stored {crypto : Crypto} {env : Env} {service after : TokenService}
    {userId : Int32} {deviceId : Bytes} {pair : TokenPair}
    (issued : service.issue crypto env userId deviceId = some (pair, after))
    (plain : (0 : UInt8) ∉ deviceId) :
    Binding.Stored after.db ⟨userId, pair.sessionId, deviceId, pair.accessExpiresAt⟩ := by
  simp only [TokenService.issue, bind, Option.bind_eq_some_iff] at issued
  obtain ⟨sessionId, drawn, _, _, _, _, _, _, db, created, made⟩ := issued
  simp only [pure, Option.some.injEq, Prod.mk.injEq] at made
  obtain ⟨rfl, rfl⟩ := made
  obtain ⟨raw, _, rfl⟩ := Option.map_eq_some_iff.mp drawn
  unfold AuthTables.createAuthSession at created
  split at created
  · obtain ⟨sessions, inserted, rfl⟩ := Option.map_eq_some_iff.mp created
    have rows := (Table.insert_eq_some inserted).1
    dsimp only
    refine ⟨_, rows ▸ List.mem_append_right _ (List.mem_singleton.mpr rfl), rfl, ?_, ?_⟩
    · exact cstr_toHex raw
    · exact cstr_bytes plain
  · simp at created

theorem accepted_stored {crypto : Crypto} {now : Int} {server : Server} {session : Session}
    {rq : TokenLoginRq} {userId : Int32} {sessionId : Bytes} {expiresAt : Int}
    (accepted : server.checkTokenLogin crypto now session rq =
      some (userId, sessionId, expiresAt)) :
    Binding.Stored server.tokens.db ⟨userId, sessionId, rq.deviceId, expiresAt⟩ := by
  unfold checkTokenLogin at accepted
  split at accepted
  · simp only [bind, Option.bind_eq_some_iff] at accepted
    obtain ⟨found, valid, _, _, given⟩ := accepted
    split at given
    · simp only [Option.some.injEq] at given
      subst found
      obtain ⟨row, stored, _, _, _, device, _, same⟩ := TokenService.validateAccess_eq_some valid
      simp only [Prod.mk.injEq] at same
      exact ⟨row, stored, same.1.symm, same.2.1.symm, device⟩
    · simp at given
  · simp at accepted

theorem refreshed_stored {crypto : Crypto} {env : Env} {state : TokenState}
    (invariant : StoreInvariant crypto state) {rq : RefreshTokenRq} {record : AuthSessionRecord}
    {pair : TokenPair}
    (current : state.service.db.findByRefreshHash (crypto.tokenHash rq.refreshToken) = some record)
    (device : record.deviceId.bytes = rq.deviceId)
    (granted : (state.service.rotateRefresh crypto env rq.refreshToken rq.deviceId
      rq.requestId).1 = .granted pair) :
    Binding.Stored
      (state.service.rotateRefresh crypto env rq.refreshToken rq.deviceId rq.requestId).2.db
      ⟨record.userId, pair.sessionId, rq.deviceId, pair.accessExpiresAt⟩ := by
  obtain ⟨row, rfl, rotation⟩ := invariant.rotation_of_current current granted
  refine ⟨rotatedRow crypto pair row, ?_, rfl, rotation.session.symm, device⟩
  rw [rotation.sessions]
  exact List.mem_map.mpr ⟨row, rotation.stored, if_pos rfl⟩

theorem newBinding_stored {crypto : Crypto} {env : Env} {server : Server} {ledger : Ledger}
    {conn : ConnId} {session : Session} {request : ClientPacket} {binding : Binding}
    (invariant : StoreInvariant crypto ⟨server.tokens, ledger⟩)
    (keeps : server.KeepsIdentity crypto env conn session request)
    (bound : server.newBinding crypto env conn session request = some binding) :
    binding.Stored (server.coreAfter crypto env conn session request).1.db := by
  cases request with
  | login rq =>
      simp only [newBinding, KeepsIdentity, coreAfter, tokenOp] at bound keeps ⊢
      generalize server.checkLogin crypto env conn session rq = checked at bound keeps ⊢
      obtain ⟨_ | userId, middle⟩ := checked
      · simp at bound
      · obtain ⟨⟨pair, after⟩, issued, rfl⟩ := Option.map_eq_some_iff.mp bound
        simpa only [TokenOp.apply, issued, Option.map_some, Option.getD_some] using
          issued_stored issued (keeps rfl)
  | tokenLogin rq =>
      simp only [newBinding, coreAfter, tokenOp] at bound ⊢
      split at bound
      · simp at bound
      · obtain ⟨accepted, checked, rfl⟩ := Option.map_eq_some_iff.mp bound
        exact accepted_stored checked
  | tokenRefresh rq =>
      simp only [newBinding, KeepsIdentity, coreAfter, tokenOp] at bound keeps ⊢
      split at bound
      · rename_i proven
        split at bound
        · rename_i pair after granted
          simp only [Option.some.injEq] at bound
          obtain ⟨record, current, _, device⟩ := refreshProof_record proven.1
          have stored := refreshed_stored invariant current device (congrArg Prod.fst granted)
          rw [keeps proven.2 proven.1 record current] at stored
          simpa only [if_pos proven.1, TokenOp.apply, ← bound] using stored
        · simp at bound
      · simp at bound
  | logout | chatInfo | friendOffline | heartbeat | other => simp [newBinding] at bound

theorem Identified.step {crypto : Crypto} {before after : ServerState} {event : ServerEvent}
    (identified : before.server.Identified) (invariant : StoreInvariant crypto before.tokens)
    (taken : ServerStep crypto before event after)
    (keeps : event.KeepsIdentity crypto before.server) : after.server.Identified := by
  intro conn session live authenticated
  have bound : (event.apply crypto before.server).bindings conn = some session.binding := by
    rw [← taken.2.1, bindings, live]
    rfl
  rcases ServerEvent.apply_binding bound with
    unchanged | anonymous | ⟨env, request, sender, rfl, sent, new, applied⟩
  · obtain ⟨earlier, earlierLive, same⟩ := Option.map_eq_some_iff.mp unchanged
    have userId : earlier.userId = session.userId := congrArg Binding.userId same
    have stored := identified conn earlier earlierLive
      (by rwa [Session.authenticated, userId])
    rw [same] at stored
    have tokens := event.apply_tokens crypto before.server
    rw [taken.2.1, tokens]
    cases event.tokenOp crypto before.server with
    | none => exact stored
    | some op => exact stored.kept (op.change crypto before.server.tokens)
  · have positive : 0 < session.userId := of_decide_eq_true authenticated
    rw [show session.userId = 0 from anonymous] at positive
    exact absurd positive (by decide)
  · have touched : StoreInvariant crypto
        ⟨(before.server.touchSession env.now sender).tokens, before.ledger⟩ := by
      rw [touchSession_tokens]
      exact invariant
    have stored := newBinding_stored touched (keeps sender sent) new
    rwa [taken.2.1, applied]

structure IdentityInvariant (crypto : Crypto) (state : ServerState) : Prop where
  store : StoreInvariant crypto state.tokens
  identified : state.server.Identified

theorem IdentityInvariant.initial (crypto : Crypto) : IdentityInvariant crypto .start where
  store := .initial
  identified := by
    intro conn session live
    simp [ServerState.start, empty] at live

theorem IdentityInvariant.step {crypto : Crypto} {before after : ServerState}
    {event : ServerEvent} (invariant : IdentityInvariant crypto before)
    (collisionFree : Function.Injective crypto.sha256)
    (taken : ServerStep crypto before event after)
    (keeps : event.KeepsIdentity crypto before.server) : IdentityInvariant crypto after where
  store := by
    obtain ⟨ops, called⟩ := taken.tokens
    exact called.invariant invariant.store fun _ _ _ held step => held.step collisionFree step
  identified := invariant.identified.step invariant.store taken keeps

/-- In every run whose packets keep the identity, every authenticated connection
is bound to a stored session of its user and device. -/
theorem identified_run {crypto : Crypto} (collisionFree : Function.Injective crypto.sha256)
    {events : List ServerEvent} {state : ServerState}
    (run : Run (fun before event after =>
      ServerStep crypto before event after ∧ event.KeepsIdentity crypto before.server)
      .start events state) : state.server.Identified :=
  (run.invariant (IdentityInvariant.initial crypto) fun _ _ _ invariant taken =>
    invariant.step collisionFree taken.1 taken.2).identified

theorem identified_run_aliceRefreshes :
    (ServerState.after recordedCrypto aliceRefreshes).server.Identified := by
  have guards : guarded (ServerState.next recordedCrypto)
      (fun state event => state.fresh recordedCrypto event &&
        decide (event.KeepsIdentity recordedCrypto state.server)) .start aliceRefreshes = true := by
    decide +kernel
  refine identified_run recordedCrypto_injective (Run.of_guarded ?_ guards)
  intro state event passed
  rw [Bool.and_eq_true, decide_eq_true_eq] at passed
  exact ⟨ServerStep.of_fresh passed.1, passed.2⟩

def crossRefresh : List ServerEvent :=
  aliceLogsIn ++ bobLogsIn ++ [.packet (countingEnv 1700000060 15) 0 (.tokenRefresh bobRefresh)]

/-- The refresh leaves Alice's user id paired with Bob's session. -/
theorem crossRefresh_unidentified :
    Function.Injective recordedCrypto.sha256 ∧
    ServerRun recordedCrypto crossRefresh (.after recordedCrypto crossRefresh) ∧
    ¬ (ServerState.after recordedCrypto crossRefresh).server.Identified := by
  refine ⟨recordedCrypto_injective, ServerRun.of_fresh (by decide +kernel), ?_⟩
  intro identified
  have mixed : ((ServerState.after recordedCrypto crossRefresh).server.sessions 0).any
      (fun session => session.authenticated && !decide (session.binding.Stored
        (ServerState.after recordedCrypto crossRefresh).server.tokens.db)) = true := by
    decide +kernel
  obtain ⟨session, live, bad⟩ := Option.any_eq_true .. |>.mp mixed
  simp only [Bool.and_eq_true, Bool.not_eq_true', decide_eq_false_iff_not] at bad
  exact bad.2 (identified 0 session live bad.1)

end Server

end Jitong
