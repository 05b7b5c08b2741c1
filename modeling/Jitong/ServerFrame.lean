import Jitong.Dispatch

/-!
What the handlers leave alone. The core of the server is its token store and
who the connections are bound to; everything else that happens around a login
or a message does not touch it.
-/

namespace Jitong

open Lib

structure Binding where
  userId : Int32
  authSessionId : Bytes
  deviceId : Bytes
  accessExpiresAt : Int

def Session.binding (session : Session) : Binding :=
  ⟨session.userId, session.authSessionId, session.deviceId, session.accessExpiresAt⟩

namespace Server

/-! A view that a delivery does not change is not changed by loops of deliveries. -/

section Views

variable {View : Type} (view : Server → View)

theorem sendFriendInfo_view
    (kept : ∀ server conn packet, view (server.deliver conn packet) = view server)
    (server : Server) (conn : ConnId) (userId status : Int32) :
    view (server.sendFriendInfo conn userId status) = view server := by
  unfold sendFriendInfo
  split
  · rfl
  · exact kept ..

theorem announceFriend_view
    (kept : ∀ server conn packet, view (server.deliver conn packet) = view server)
    (conn : ConnId) (userId : Int32) (server : Server) (friendRecord : UserRecord) :
    view (announceFriend conn userId server friendRecord) = view server := by
  unfold announceFriend
  dsimp only
  split
  · rw [sendFriendInfo_view view kept, sendFriendInfo_view view kept]
  · exact sendFriendInfo_view view kept ..

theorem announce_view
    (kept : ∀ server conn packet, view (server.deliver conn packet) = view server)
    (server : Server) (conn : ConnId) (userId : Int32) :
    view (server.announce conn userId) = view server := by
  unfold announce
  dsimp only
  rw [foldl_view view _ (announceFriend_view view kept conn userId), sendFriendInfo_view view kept]

theorem replayMessage_view
    (kept : ∀ server conn packet, view (server.deliver conn packet) = view server)
    (conn : ConnId) (userId : Int32) (server : Server) (message : StoredMessage Bytes) :
    view (replayMessage conn userId server message) = view server := by
  unfold replayMessage
  dsimp only
  split
  · rw [kept, kept]
  · exact kept ..

theorem notifyOffline_view
    (kept : ∀ server conn packet, view (server.deliver conn packet) = view server)
    (userId : Int32) (server : Server) (friendRecord : UserRecord) :
    view (notifyOffline userId server friendRecord) = view server := by
  unfold notifyOffline
  split
  · exact kept ..
  · rfl

end Views

def bindings (server : Server) (conn : ConnId) : Option Binding :=
  (server.sessions conn).map Session.binding

def core (server : Server) : TokenService × (ConnId → Option Binding) :=
  (server.tokens, server.bindings)

theorem modify_core (server : Server) (conn : ConnId) {change : Session → Session}
    (kept : ∀ session, (change session).binding = session.binding) :
    (server.modify conn change).core = server.core := by
  exact Prod.ext rfl (funext fun other => server.modify_map conn other Session.binding kept)

@[simp] theorem deliver_core (server : Server) (conn : ConnId) (packet : ServerPacket) :
    (server.deliver conn packet).core = server.core :=
  modify_core _ _ fun _ => rfl

@[simp] theorem close_core (server : Server) (conn : ConnId) :
    (server.close conn).core = server.core :=
  modify_core _ _ fun _ => rfl

@[simp] theorem closeAfterWrite_core (server : Server) (conn : ConnId) :
    (server.closeAfterWrite conn).core = server.core :=
  close_core ..

@[simp] theorem touch_core (server : Server) (now : Int) (userId : Int32) :
    (server.touch now userId).core = server.core := rfl

@[simp] theorem touchSession_core (now : Int) (server : Server) (session : Session) :
    (server.touchSession now session).core = server.core := by
  unfold touchSession
  split <;> rfl

@[simp] theorem touchSession_tokens (now : Int) (server : Server) (session : Session) :
    (server.touchSession now session).tokens = server.tokens :=
  congrArg Prod.fst (touchSession_core now server session)

@[simp] theorem touchSession_sessions (now : Int) (server : Server) (session : Session) :
    (server.touchSession now session).sessions = server.sessions := by
  unfold touchSession
  split <;> rfl

@[simp] theorem presenceOffline_core (server : Server) (userId : Int32) (conn : ConnId) :
    (server.presenceOffline userId conn).core = server.core := by
  unfold presenceOffline
  split <;> rfl

@[simp] theorem takePlace_core (now : Int) (server : Server) (conn : ConnId) (userId : Int32) :
    (server.takePlace now conn userId).core = server.core := by
  unfold takePlace
  dsimp only
  split
  · split
    · simp
      rfl
    · rfl
  · rfl

@[simp] theorem recordSuccess_core (server : Server) (ip account : Bytes) :
    (server.recordSuccess ip account).core = server.core := rfl

@[simp] theorem announce_core (server : Server) (conn : ConnId) (userId : Int32) :
    (server.announce conn userId).core = server.core :=
  announce_view core deliver_core ..

@[simp] theorem activateSession_core (env : Env) (server : Server) (conn : ConnId)
    (userId : Int32) : (server.activateSession env conn userId).core = server.core := by
  unfold activateSession markDelivered
  dsimp only
  have replayed := foldl_view core _ (replayMessage_view core deliver_core conn userId)
    ((server.takePlace env.now conn userId).announce conn userId
      |>.messages.pullUndelivered userId)
    ((server.takePlace env.now conn userId).announce conn userId)
  rw [announce_core, takePlace_core] at replayed
  exact replayed

@[simp] theorem answerChat_core (server : Server) (conn : ConnId) (draft : ChatDraft)
    (message : StoredMessage Bytes) (target : Option ConnId) :
    (server.answerChat conn draft message target).core = server.core := by
  have uploads : (server.eraseUploads draft).core = server.core := by
    unfold eraseUploads
    split
    · cases draft.hasThumbnail <;> cases draft.hasLargeThumbnail <;> rfl
    · rfl
  unfold answerChat
  dsimp only
  split <;> simp [uploads]

@[simp] theorem onChat_core (crypto : Crypto) (env : Env) (server : Server) (conn : ConnId)
    (rq : ChatInfoRq) : (server.onChat crypto env conn rq).core = server.core := by
  unfold onChat
  split
  · rfl
  · split
    · rfl
    · exact deliver_core ..
    · dsimp only
      split
      · rename_i after saved
        simp only [saveChat, Prod.mk.injEq] at saved
        rw [deliverFailure, deliver_core, ← saved.2.2]
        rfl
      · rename_i message after saved
        simp only [saveChat, Prod.mk.injEq] at saved
        rw [answerChat_core, ← saved.2.2]
        rfl

@[simp] theorem onOffline_core (server : Server) (conn : ConnId) :
    (server.onOffline conn).core = server.core := by
  unfold onOffline
  split <;> simp

@[simp] theorem onHeartbeat_core (env : Env) (server : Server) (conn : ConnId) :
    (server.onHeartbeat env conn).core = server.core := by
  unfold onHeartbeat
  split <;> simp

@[simp] theorem onSessionClosed_core (server : Server) (conn : ConnId) :
    (server.onSessionClosed conn).core = server.core := by
  unfold onSessionClosed
  split
  · rfl
  · split
    · rfl
    · dsimp only
      have closed : (server.modify conn fun session => { session with closed := true }).core =
          server.core := modify_core _ _ fun _ => rfl
      split
      · exact closed
      · exact (presenceOffline_core ..).trans closed

@[simp] theorem broadcastOffline_core (server : Server) (userId : Int32) :
    (server.broadcastOffline userId).core = server.core :=
  foldl_view core _ (notifyOffline_view core deliver_core userId) _ _

@[simp] theorem kickRevoked_core (server : Server) (userId : Int32) :
    (server.kickRevoked userId).core = server.core := by
  unfold kickRevoked
  split
  · split <;> simp
  · rfl

@[simp] theorem loginUser_core (crypto : Crypto) (upgraded : Option Bytes) (written : Bool)
    (server : Server) (tel passHash : Bytes) :
    (server.loginUser crypto upgraded written tel passHash).2.2.core = server.core := by
  unfold loginUser
  split
  · rfl
  · dsimp only
    split
    · rfl
    · split
      · rfl
      · split
        · cases written <;> rfl
        · rfl

@[simp] theorem bindDevicePublicKey_core (written : Bool) (server : Server) (userId : Int32)
    (deviceId publicKey : Bytes) :
    (server.bindDevicePublicKey written userId deviceId publicKey).2.core = server.core := by
  unfold bindDevicePublicKey
  split <;> rfl

theorem checkLogin_core (crypto : Crypto) (env : Env) (server : Server) (conn : ConnId)
    (session : Session) (rq : LoginRq) :
    (server.checkLogin crypto env conn session rq).2.core = server.core := by
  unfold checkLogin
  dsimp only
  split
  · exact deliver_core ..
  · split
    · exact deliver_core ..
    · split
      · exact deliver_core ..
      · split
        · exact deliver_core ..
        · split
          · exact (deliver_core ..).trans (loginUser_core ..)
          · split
            · exact (deliver_core ..).trans ((bindDevicePublicKey_core ..).trans (loginUser_core ..))
            · exact (bindDevicePublicKey_core ..).trans (loginUser_core ..)

/-! What the handlers do to the core. -/

def boundCore (server : Server) (tokens : TokenService) (conn : ConnId) (binding : Binding) :
    TokenService × (ConnId → Option Binding) :=
  (tokens, Function.update server.bindings conn (some binding))

theorem bindAuth_core (server : Server) {conn : ConnId} {session : Session}
    (live : server.sessions conn = some session) (userId : Int32)
    (authSessionId deviceId : Bytes) (expiresAt : Int) :
    (server.modify conn fun session =>
      session.bindAuth userId authSessionId deviceId expiresAt).core =
      server.boundCore server.tokens conn ⟨userId, authSessionId, deviceId, expiresAt⟩ := by
  refine Prod.ext rfl (funext fun other => ?_)
  dsimp only [core, boundCore]
  unfold bindings
  by_cases same : other = conn
  · subst other
    rw [modify_self, Function.update_self, live]
    rfl
  · rw [modify_other _ _ same, Function.update_of_ne same]

theorem onLogin_core (crypto : Crypto) (env : Env) {server : Server} {conn : ConnId}
    {session : Session} (live : server.sessions conn = some session) (rq : LoginRq) :
    (server.onLogin crypto env conn rq).core =
      match server.checkLogin crypto env conn session rq with
      | (none, _) => server.core
      | (some userId, _) =>
          match server.tokens.issue crypto (env.skipWrites 2) userId rq.deviceId with
          | none => server.core
          | some (pair, tokens) =>
              server.boundCore tokens conn
                ⟨userId, pair.sessionId, rq.deviceId, pair.accessExpiresAt⟩ := by
  have checked := server.checkLogin_core crypto env conn session rq
  unfold onLogin
  rw [live]
  dsimp only
  generalize server.checkLogin crypto env conn session rq = result at checked ⊢
  obtain ⟨outcome, middle⟩ := result
  have tokens : middle.tokens = server.tokens := congrArg Prod.fst checked
  have bindings : middle.bindings = server.bindings := congrArg Prod.snd checked
  cases outcome with
  | none => exact checked
  | some userId =>
      dsimp only
      rw [tokens]
      rcases server.tokens.issue crypto (env.skipWrites 2) userId rq.deviceId with
        _ | ⟨pair, after⟩
      · exact (deliver_core ..).trans checked
      · have kept : (middle.sessions conn).map Session.binding = some session.binding := by
          have same := congrFun bindings conn
          unfold Server.bindings at same
          rw [same, live]
          rfl
        obtain ⟨bound, found, _⟩ := Option.map_eq_some_iff.mp kept
        dsimp only
        rw [activateSession_core, recordSuccess_core, deliver_core,
          bindAuth_core { middle with tokens := after } found]
        exact congrArg (fun view => (after, Function.update view conn _)) bindings

theorem onTokenLogin_core (crypto : Crypto) (env : Env) {server : Server} {conn : ConnId}
    {session : Session} (live : server.sessions conn = some session) (rq : TokenLoginRq) :
    (server.onTokenLogin crypto env conn rq).core =
      if session.authenticated then server.core else
      match server.checkTokenLogin crypto env.now session rq with
      | none => server.core
      | some (userId, sessionId, expiresAt) =>
          server.boundCore server.tokens conn ⟨userId, sessionId, rq.deviceId, expiresAt⟩ := by
  unfold onTokenLogin
  rw [live]
  dsimp only
  split
  · exact deliver_core ..
  · rcases server.checkTokenLogin crypto env.now session rq with _ | ⟨userId, sessionId, expiresAt⟩
    · exact deliver_core ..
    · exact (activateSession_core ..).trans ((deliver_core ..).trans (bindAuth_core server live ..))

theorem onTokenRefresh_core (crypto : Crypto) (env : Env) {server : Server} {conn : ConnId}
    {session : Session} (live : server.sessions conn = some session) (rq : RefreshTokenRq) :
    (server.onTokenRefresh crypto env conn rq).core =
      if server.refreshProof crypto session rq then
        match server.tokens.rotateRefresh crypto env rq.refreshToken rq.deviceId rq.requestId with
        | (.granted pair, tokens) =>
            if session.authenticated then
              server.boundCore tokens conn
                ⟨session.userId, pair.sessionId, rq.deviceId, pair.accessExpiresAt⟩
            else (tokens, server.bindings)
        | (_, tokens) => (tokens, server.bindings)
      else server.core := by
  unfold onTokenRefresh
  rw [live]
  dsimp only
  split
  · rcases server.tokens.rotateRefresh crypto env rq.refreshToken rq.deviceId rq.requestId with
      ⟨outcome, after⟩
    cases outcome with
    | granted pair =>
        dsimp only
        rw [deliver_core]
        by_cases bound : session.authenticated
        · rw [if_pos bound, if_pos bound]
          refine Eq.trans ?_ (bindAuth_core { server with tokens := after } live session.userId
            pair.sessionId rq.deviceId pair.accessExpiresAt)
          unfold modify
          dsimp only
          rw [live]
          rfl
        · rw [if_neg bound, if_neg bound]
          rfl
    | refused revokedUserId => exact (deliver_core ..).trans (kickRevoked_core ..)
    | thrown => exact close_core ..
  · exact deliver_core ..

theorem onLogout_core (crypto : Crypto) (env : Env) {server : Server} {conn : ConnId}
    {session : Session} (live : server.sessions conn = some session) (rq : LogoutRq) :
    (server.onLogout crypto env conn rq).core =
      match server.logoutRecord crypto session rq with
      | none => server.core
      | some record =>
          (if rq.logoutAllDevices then server.tokens.revokeAllForUser env record.userId
            else server.tokens.revokeSession env record.sessionId.bytes, server.bindings) := by
  unfold onLogout
  rw [live]
  dsimp only
  cases server.logoutRecord crypto session rq with
  | none => exact deliver_core ..
  | some record => exact (closeAfterWrite_core ..).trans (deliver_core ..)

end Server

end Jitong
