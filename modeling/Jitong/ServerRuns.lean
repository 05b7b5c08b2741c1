import Jitong.ServerFrame

/-!
A run of the server is a run of its token store with something around it: each
event makes at most one call to the store, and what is known of runs of token
calls holds of the server.
-/

namespace Jitong

open Lib

namespace Server

def newBinding (crypto : Crypto) (env : Env) (server : Server) (conn : ConnId)
    (session : Session) : ClientPacket → Option Binding
  | .login rq =>
      match server.checkLogin crypto env conn session rq with
      | (none, _) => none
      | (some userId, _) =>
          (server.tokens.issue crypto (env.skipWrites 2) userId rq.deviceId).map fun issued =>
            ⟨userId, issued.1.sessionId, rq.deviceId, issued.1.accessExpiresAt⟩
  | .tokenLogin rq =>
      if session.authenticated then none
      else (server.checkTokenLogin crypto env.now session rq).map fun accepted =>
        ⟨accepted.1, accepted.2.1, rq.deviceId, accepted.2.2⟩
  | .tokenRefresh rq =>
      if server.refreshProof crypto session rq ∧ session.authenticated then
        match server.tokens.rotateRefresh crypto env rq.refreshToken rq.deviceId rq.requestId with
        | (.granted pair, _) =>
            some ⟨session.userId, pair.sessionId, rq.deviceId, pair.accessExpiresAt⟩
        | _ => none
      else none
  | _ => none

def coreAfter (crypto : Crypto) (env : Env) (server : Server) (conn : ConnId) (session : Session)
    (request : ClientPacket) : TokenService × (ConnId → Option Binding) :=
  (match server.tokenOp crypto env conn session request with
    | none => server.tokens
    | some op => op.apply crypto server.tokens,
   match server.newBinding crypto env conn session request with
    | none => server.bindings
    | some binding => Function.update server.bindings conn (some binding))

theorem handle_core (crypto : Crypto) (env : Env) {server : Server} {conn : ConnId}
    {session : Session} (live : server.sessions conn = some session) (request : ClientPacket) :
    (server.handle crypto env conn request).core =
      server.coreAfter crypto env conn session request := by
  cases request with
  | login rq =>
      rw [handle, onLogin_core crypto env live]
      simp only [coreAfter, tokenOp, newBinding]
      generalize server.checkLogin crypto env conn session rq = result
      obtain ⟨_ | userId, middle⟩ := result
      · rfl
      · dsimp only [TokenOp.apply]
        rcases server.tokens.issue crypto (env.skipWrites 2) userId rq.deviceId with
          _ | ⟨pair, after⟩ <;> rfl
  | tokenLogin rq =>
      rw [handle, onTokenLogin_core crypto env live]
      simp only [coreAfter, tokenOp, newBinding]
      split
      · rfl
      · rcases server.checkTokenLogin crypto env.now session rq with
          _ | ⟨userId, sessionId, expiresAt⟩ <;> rfl
  | tokenRefresh rq =>
      rw [handle, onTokenRefresh_core crypto env live]
      simp only [coreAfter, tokenOp, newBinding]
      by_cases proven : server.refreshProof crypto session rq
      · rw [if_pos proven, if_pos proven]
        dsimp only [TokenOp.apply]
        rcases server.tokens.rotateRefresh crypto env rq.refreshToken rq.deviceId rq.requestId with
          ⟨outcome, after⟩
        by_cases bound : session.authenticated <;> cases outcome <;> simp [proven, bound, boundCore]
      · simp only [proven, if_neg, Bool.false_eq_true, false_and, not_false_eq_true]
        rfl
  | logout rq =>
      rw [handle, onLogout_core crypto env live]
      simp only [coreAfter, tokenOp, newBinding]
      cases server.logoutRecord crypto session rq with
      | none => rfl
      | some record =>
          dsimp only
          split <;> rfl
  | chatInfo rq => exact onChat_core ..
  | friendOffline => exact onOffline_core ..
  | heartbeat => exact onHeartbeat_core ..
  | other type => rfl

theorem dispatchPacket_core (crypto : Crypto) (env : Env) {server : Server} {conn : ConnId}
    {session : Session} (live : server.sessions conn = some session) (request : ClientPacket) :
    (server.dispatchPacket crypto env conn request).core =
      if session.accessExpired request.type env.now then server.core
      else (server.touchSession env.now session).coreAfter crypto env conn session request := by
  unfold dispatchPacket
  rw [live]
  dsimp only
  split
  · simp
  · exact handle_core crypto env (by simpa using live) request

end Server

namespace ServerEvent

theorem apply_tokens (crypto : Crypto) (server : Server) (event : ServerEvent) :
    (event.apply crypto server).tokens =
      match event.tokenOp crypto server with
      | none => server.tokens
      | some op => op.apply crypto server.tokens := by
  cases event with
  | connect conn appSessionId peerAddress =>
      rw [apply]
      split <;> rfl
  | packet env conn request =>
      cases live : server.sessions conn with
      | none => simp [apply, tokenOp, Server.dispatchPacket, live]
      | some session =>
          have tokens := congrArg Prod.fst (Server.dispatchPacket_core crypto env live request)
          simp only [apply, tokenOp, live]
          refine tokens.trans ?_
          split
          · rfl
          · simp only [Server.coreAfter, Server.touchSession_tokens]
  | closed conn => exact congrArg Prod.fst (Server.onSessionClosed_core server conn)
  | destroyed conn => rfl
  | posted userId =>
      rw [apply]
      split
      · exact congrArg Prod.fst (Server.broadcastOffline_core _ userId)
      · rfl
  | directory users friends => rfl
  | upload fileId record => rfl

theorem apply_binding {crypto : Crypto} {server : Server} {event : ServerEvent} {conn : ConnId}
    {binding : Binding} (bound : (event.apply crypto server).bindings conn = some binding) :
    server.bindings conn = some binding ∨ binding.userId = 0 ∨
    ∃ env request session, event = .packet env conn request ∧
      server.sessions conn = some session ∧
      (server.touchSession env.now session).newBinding crypto env conn session request =
        some binding ∧
      (event.apply crypto server).tokens =
        ((server.touchSession env.now session).coreAfter crypto env conn session request).1 := by
  have quiet {after : Server} (same : after.core = server.core)
      (bound : after.bindings conn = some binding) : server.bindings conn = some binding :=
    (congrFun (congrArg Prod.snd same) conn).symm.trans bound
  cases event with
  | connect other appSessionId peerAddress =>
      rw [apply] at bound
      split at bound
      · exact .inl bound
      · by_cases same : conn = other
        · subst other
          simp only [Server.bindings, Server.connect, Function.update_self, Option.map_some,
            Option.some.injEq] at bound
          exact .inr (.inl (bound ▸ rfl))
        · simp only [Server.bindings, Server.connect, Function.update_of_ne same] at bound
          exact .inl bound
  | packet env other request =>
      cases live : server.sessions other with
      | none =>
          rw [apply, Server.dispatchPacket, live] at bound
          exact .inl bound
      | some session =>
          rw [apply] at bound
          have core := Server.dispatchPacket_core crypto env live request
          by_cases expired : session.accessExpired request.type env.now
          · rw [if_pos expired] at core
            exact .inl (quiet core bound)
          · rw [if_neg expired] at core
            have bound := (congrFun (congrArg Prod.snd core) conn).symm.trans bound
            have touched := congrArg Prod.snd (server.touchSession_core env.now session)
            simp only [Server.coreAfter] at bound
            cases new : (server.touchSession env.now session).newBinding crypto env other session
              request with
            | none =>
                rw [new] at bound
                exact .inl ((congrFun touched conn).symm.trans bound)
            | some given =>
                simp only [new] at bound
                by_cases same : conn = other
                · subst other
                  rw [Function.update_self] at bound
                  exact .inr (.inr ⟨env, request, session, rfl, live, new.trans bound,
                    congrArg Prod.fst core⟩)
                · rw [Function.update_of_ne same] at bound
                  exact .inl ((congrFun touched conn).symm.trans bound)
  | closed other => exact .inl (quiet (Server.onSessionClosed_core server other) bound)
  | destroyed other =>
      refine .inl (quiet ?_ bound)
      exact Server.modify_core server other fun _ => rfl
  | posted userId =>
      rw [apply] at bound
      split at bound
      · refine .inl (quiet (Eq.trans (Server.broadcastOffline_core _ userId) ?_) bound)
        rfl
      · exact .inl bound
  | directory users friends => exact .inl bound
  | upload fileId record => exact .inl bound

end ServerEvent

theorem ServerStep.tokens {crypto : Crypto} {before after : ServerState} {event : ServerEvent}
    (taken : ServerStep crypto before event after) :
    ∃ ops, Run (TokenStep crypto) before.tokens ops after.tokens := by
  obtain ⟨fresh, server, ledger⟩ := taken
  have applied := event.apply_tokens crypto before.server
  rw [← server] at applied
  unfold ServerEvent.minted at fresh ledger
  cases called : event.tokenOp crypto before.server with
  | none =>
      rw [called] at applied ledger
      have same : after.tokens = before.tokens := by
        simp only [ServerState.tokens, applied]
        simpa using ledger
      exact ⟨[], same ▸ .nil⟩
  | some op =>
      rw [called] at applied ledger fresh
      exact ⟨[op], .single ⟨fresh, applied, ledger⟩⟩

theorem ServerRun.tokenRun {crypto : Crypto} {events : List ServerEvent} {state : ServerState}
    (run : ServerRun crypto events state) : ∃ ops, TokenRun crypto ops state.tokens :=
  run.simulate fun _ _ _ taken => taken.tokens

theorem ServerRun.storeInvariant {crypto : Crypto} {events : List ServerEvent}
    {state : ServerState} (run : ServerRun crypto events state)
    (collisionFree : Function.Injective crypto.sha256) : StoreInvariant crypto state.tokens := by
  obtain ⟨ops, tokenRun⟩ := run.tokenRun
  exact StoreInvariant.run collisionFree tokenRun

/-! Runs that are computed. -/

def ServerState.next (crypto : Crypto) (state : ServerState) (event : ServerEvent) : ServerState :=
  ⟨event.apply crypto state.server, (event.minted crypto state.server).toList ++ state.ledger⟩

def ServerState.fresh (crypto : Crypto) (state : ServerState) (event : ServerEvent) : Bool :=
  (event.minted crypto state.server).all fun mint => FreshMint state.ledger mint

theorem ServerStep.of_fresh {crypto : Crypto} {state : ServerState} {event : ServerEvent}
    (fresh : state.fresh crypto event = true) :
    ServerStep crypto state event (state.next crypto event) := by
  refine ⟨?_, rfl, rfl⟩
  intro mint minted
  simpa [ServerState.fresh, minted] using fresh

def ServerState.after (crypto : Crypto) (events : List ServerEvent) : ServerState :=
  events.foldl (ServerState.next crypto) .start

theorem ServerRun.of_fresh {crypto : Crypto} {events : List ServerEvent}
    (fresh : guarded (ServerState.next crypto) (ServerState.fresh crypto) .start events = true) :
    ServerRun crypto events (.after crypto events) :=
  Run.of_guarded (fun _ _ => ServerStep.of_fresh) fresh

/-! Two users, what their devices signed, and the digests that the server meets. -/

def alice : UserRecord where
  id := 1
  iconId := 0
  nick := cstr (ascii "alice")
  feeling := cstr []
  tel := cstr (ascii "13800000001")
  passwd := cstr (toHex (bigEndian 32
    0xe2afd4939d8802fe603b705aa801ad63b740ecc67db61a265f90455172f16072))
  salt := cstr (ascii "salt-a")
  passwordAlgo := cstr (ascii "legacy_sha256")

def bob : UserRecord where
  id := 2
  iconId := 0
  nick := cstr (ascii "bob")
  feeling := cstr []
  tel := cstr (ascii "13900000002")
  passwd := cstr (toHex (bigEndian 32
    0x0ab302c1edc4d358962d6e06e2e8f9c63b1d349135e8a79e6285f2c2daaf323d))
  salt := cstr (ascii "salt-b")
  passwordAlgo := cstr (ascii "legacy_sha256")

def aliceLogin : LoginRq where
  tel := ascii "13800000001"
  pass := toHex (bigEndian 32 0xbae240ce8b8ddd6d272e0ceb469f16da8c3b15eb7c3b84fe74f2f9ec7622a3a9)
  deviceId := ascii "phone-a"
  devicePublicKey := DeviceProof.publicKeyDer
    0x36692d737ae58c84986ee2ee9ed0f80b142d9a37f84c82b6aa66296bd2649051
    0x793007f838e73ef6b31f100f5660b289aefcf76172ed994cae89349483a6f390
  deviceSignature := DeviceProof.signatureDer
    0x32d3e089b40f70b9f55682f301bf5875583ca5cadfc654036108f639b29b9483
    0x2d4789fec33b122aaebe97e1da8bf07127f7d9e76c057f259e30d9191e3489bc

def bobLogin : LoginRq where
  tel := ascii "13900000002"
  pass := toHex (bigEndian 32 0x693a33394c10d487f2b81ab4d52f6e46fe68e709d75fa684c0cfcbfbce8b73b9)
  deviceId := ascii "phone-b"
  devicePublicKey := DeviceProof.publicKeyDer
    0x0dcaa4dd48217f8cdb19fd8683ee976b0205004b23517a4bf48101342077c055
    0x9a667a685e6ea600fce478a9cf6feec5d1dbb125ad58fe1acefbff9f9f2da91e
  deviceSignature := DeviceProof.signatureDer
    0x13abb40e8f1770fbefbfeb2dabb70e2fe0fcb9eee08c92f79241de5ee189b60d
    0x14e8b50959323da5915dcb7f48b1250e675f5829dc37ef7098b2a9fc40b25d6a

def aliceRefresh : RefreshTokenRq where
  refreshToken := numberedToken 4
  deviceId := ascii "phone-a"
  requestId := ascii "r-1"
  deviceSignature := DeviceProof.signatureDer
    0x166ee3ab98cf6ac3911baed64d1179264abf808f938f6696f88f5fc81bd50c5f
    0x246dee30f0b52b06dae27b1339c932797fcddb4884d72d5f930e3494b6173f79

def aliceReplay : RefreshTokenRq where
  refreshToken := numberedToken 4
  deviceId := ascii "phone-a"
  requestId := ascii "r-2"
  deviceSignature := DeviceProof.signatureDer
    0x48eee9a6d475f70767de57c546cab98c793168cf7c267163c473f26fc2195ee6
    0x26a7ca41ea2b9b42228d14ffaf6fa1ef431223a972fb7db2e8073d4a850246a1

def bobRefresh : RefreshTokenRq where
  refreshToken := numberedToken 14
  deviceId := ascii "phone-b"
  requestId := ascii "r-3"
  deviceSignature := DeviceProof.signatureDer
    0x5c6d2ae64f732c7196785049ca632a9c877a073af95374696db6328d087babe2
    0x72264f23506691b200b4c83f813c24d143680631e22584bb3c55b0964fe33c8c

def aliceAppSession : Bytes := List.replicate 16 1

def bobAppSession : Bytes := List.replicate 16 2

def signedLogin (appSessionId : Bytes) (rq : LoginRq) : Bytes × Bytes × Bytes :=
  (rq.devicePublicKey,
    DeviceProof.message (ascii "password-login") appSessionId rq.deviceId (rq.tel ++ 0 :: rq.pass)
      rq.devicePublicKey,
    rq.deviceSignature)

def signedRefresh (publicKey appSessionId : Bytes) (rq : RefreshTokenRq) : Bytes × Bytes × Bytes :=
  (publicKey,
    DeviceProof.message (ascii "token-refresh") appSessionId rq.deviceId
      (rq.refreshToken ++ 0 :: rq.requestId) [],
    rq.deviceSignature)

def passwordDigests : List (Bytes × Bytes) :=
  [(ascii "salt-a" ++ aliceLogin.pass, bigEndian 32
    0xe2afd4939d8802fe603b705aa801ad63b740ecc67db61a265f90455172f16072),
   (ascii "salt-b" ++ bobLogin.pass, bigEndian 32
    0x0ab302c1edc4d358962d6e06e2e8f9c63b1d349135e8a79e6285f2c2daaf323d)]

def recordedCrypto : Crypto :=
  .recorded (passwordDigests ++ tokenDigests)
    [signedLogin aliceAppSession aliceLogin,
     signedLogin bobAppSession bobLogin,
     signedRefresh aliceLogin.devicePublicKey aliceAppSession aliceRefresh,
     signedRefresh aliceLogin.devicePublicKey aliceAppSession aliceReplay,
     signedRefresh bobLogin.devicePublicKey aliceAppSession bobRefresh]

theorem recordedCrypto_injective : Function.Injective recordedCrypto.sha256 :=
  recordedDigest_injective (by decide +kernel) (by decide +kernel)

def aliceLogsIn : List ServerEvent :=
  [.directory [alice, bob] [(1, 2), (2, 1)],
   .connect 0 aliceAppSession (ascii "192.0.2.1"),
   .packet (countingEnv 1700000000 1) 0 (.login aliceLogin)]

def aliceRefreshes : List ServerEvent :=
  aliceLogsIn ++ [.packet (countingEnv 1700000060 5) 0 (.tokenRefresh aliceRefresh)]

def bobLogsIn : List ServerEvent :=
  [.connect 1 bobAppSession (ascii "192.0.2.2"),
   .packet (countingEnv 1700000010 11) 1 (.login bobLogin)]

end Jitong
