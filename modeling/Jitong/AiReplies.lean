import Jitong.AiHandler

/-!
What the answers of `handlers/AiHandler.cpp` rest on: the request that was accepted, and the cancels
on record when the model's result was looked at.
-/

namespace Jitong

open Lib ClientCore

namespace AiHandler

section

variable (redactSensitiveText : Bytes → Bytes)

/-- The event is the request that `task` carries, and it is accepted. -/
def accepts (task : AiTask) (handler : AiHandler) (event : Event) : Prop :=
  ∃ server request now, event = .reply server task.weakSession (some request) now ∧
    userOf server task.weakSession = task.userId ∧ request.requestId = task.requestId ∧
    task.userId ∉ handler.limiter.inFlightUsers ∧
    { task with stage := .accepted } ∈ (handler.next redactSensitiveText event).tasks

def cancels (userId : Int32) (requestId : Bytes) (handler : AiHandler) (event : Event) : Prop :=
  ∃ server session, event = .cancel server session (some requestId) ∧
    userOf server session = userId ∧
    requestKey userId requestId ∈ (handler.next redactSensitiveText event).cancelledRequests

def answers (userId : Int32) (handler : AiHandler) (event : Event) : Prop :=
  event.worksFor userId = true ∧ (handler.next redactSensitiveText event).sent ≠ handler.sent

end

section

variable {redactSensitiveText : Bytes → Bytes} {config : AiConfig} {handler : AiHandler}
  {task : AiTask} {event : Event}

theorem Kept.origin (kept : handler.Kept config)
    (member : task ∈ (handler.next redactSensitiveText event).tasks) :
    (task.stage = .accepted ∧ accepts redactSensitiveText task handler event) ∨
      (task ∈ handler.tasks ∧ event.worksFor task.userId = false) ∨
      ∃ before ∈ handler.tasks, task = { before with stage := task.stage } ∧
        event.worksFor task.userId = true ∧
        handler.Worked (handler.next redactSensitiveText event) before (some task.stage) := by
  cases event with
  | reply server session payload now =>
      rcases onReply_cases server session payload now handler with
        unmoved | ⟨request, admitted, rfl, sessionSame, user, id, admits⟩
      · exact .inr (.inl ⟨unmoved.tasks ▸ member, rfl⟩)
      · have listed := member
        simp only [AiHandler.next, admits.tasks, List.mem_cons] at listed
        rcases listed with rfl | old
        · refine .inl ⟨admits.stage, server, request, now, ?_⟩
          have whole : { task with stage := .accepted } = task := by rw [← admits.stage]
          rw [whole, sessionSame]
          exact ⟨rfl, user.symm, id.symm, admits.idle, member⟩
        · exact .inr (.inl ⟨old, rfl⟩)
  | cancel server session payload =>
      refine .inr (.inl ⟨?_, rfl⟩)
      rcases onCancel_cases server session payload handler with
        unmoved | ⟨_, _, _, _, _, _, tasks⟩
      · exact unmoved.tasks ▸ member
      · exact tasks ▸ member
  | work server generated userId =>
      cases found : handler.taskOf userId with
      | none =>
          simp only [AiHandler.next, found] at member
          refine .inr (.inl ⟨member, ?_⟩)
          have other := List.find?_eq_none.mp found task member
          simpa [Event.worksFor, eq_comm] using other
      | some worker =>
          have user : worker.userId = userId := by simpa using List.find?_some found
          have inside : worker ∈ handler.tasks := List.mem_of_find?_eq_some found
          obtain ⟨stage, worked⟩ := work_worked redactSensitiveText server generated handler worker
          have same : handler.next redactSensitiveText (.work server generated userId) =
              handler.work redactSensitiveText server generated worker := by
            simp only [AiHandler.next, found]
          rw [same, worked.tasks, List.mem_append] at member
          rcases member with moved | left
          · cases stage with
            | none => simp at moved
            | some following =>
                obtain rfl : task = { worker with stage := following } := by simpa using moved
                rw [same]
                exact .inr (.inr ⟨worker, inside, rfl, by simp [Event.worksFor, user], worked⟩)
          · refine .inr (.inl ⟨List.mem_of_mem_erase left, ?_⟩)
            have apart := kept.apart inside left
            rw [user] at apart
            simpa [Event.worksFor, eq_comm] using apart

theorem Kept.cancelled_stays (kept : handler.Kept config)
    (member : task ∈ (handler.next redactSensitiveText event).tasks)
    (early : 3 ≤ task.stage.rank) (marked : task.key ∈ handler.cancelledRequests) :
    task.key ∈ (handler.next redactSensitiveText event).cancelledRequests := by
  cases event with
  | reply server session payload now =>
      rcases onReply_cases server session payload now handler with
        unmoved | ⟨_, _, _, _, _, _, admits⟩
      · exact unmoved.cancelled ▸ marked
      · exact admits.cancelled ▸ marked
  | cancel server session payload =>
      rcases onCancel_cases server session payload handler with
        unmoved | ⟨_, _, _, cancelled, _, _, _⟩
      · exact unmoved.cancelled ▸ marked
      · exact cancelled ▸ Finset.mem_insert_of_mem marked
  | work server generated userId =>
      cases found : handler.taskOf userId with
      | none => simpa only [AiHandler.next, found] using marked
      | some worker =>
          have inside : worker ∈ handler.tasks := List.mem_of_find?_eq_some found
          obtain ⟨stage, worked⟩ := work_worked redactSensitiveText server generated handler worker
          simp only [AiHandler.next, found] at member ⊢
          rw [worked.cancelled]
          split
          · refine Finset.mem_erase.mpr ⟨fun same => ?_, marked⟩
            rename_i ending
            have user := (requestKey_injective same).1
            rw [worked.tasks, List.mem_append] at member
            rcases member with moved | left
            · cases stage with
              | none => simp at moved
              | some following =>
                  obtain rfl : task = { worker with stage := following } := by simpa using moved
                  have lower := worked.lower following rfl
                  rw [ending] at lower
                  simp only [AiTask.Stage.rank] at lower early
                  omega
            · exact kept.apart inside left user
          · exact marked

end

theorem eq_of_moved {task worker : AiTask} {stage : AiTask.Stage}
    (same : ({ task with stage } : AiTask) = { worker with stage }) :
    { task with stage := worker.stage } = worker := by
  cases worker
  simp only [AiTask.mk.injEq, and_true] at same ⊢
  exact same

section

variable (redactSensitiveText : Bytes → Bytes) (config : AiConfig) (task : AiTask)
  {events : List Event}

theorem open_since {stage : AiTask.Stage} (early : 3 ≤ stage.rank) (member : { task with stage } ∈
    (events.foldl (next redactSensitiveText) (create config)).tasks) :
    HappenedSince (next redactSensitiveText) (create config) (accepts redactSensitiveText task)
      (fun handler event => ¬ answers redactSensitiveText task.userId handler event) events := by
  refine HappenedSince.of_steps (fun handler => ∃ stage : AiTask.Stage,
    { task with stage } ∈ handler.tasks ∧ 3 ≤ stage.rank) (by simp [create]) ?_ events
    ⟨stage, member, early⟩
  rintro earlier event ⟨stage, member, early⟩
  have kept := run_kept redactSensitiveText config earlier
  rcases kept.origin member with ⟨_, accepted⟩ | ⟨listed, other⟩ | ⟨before, listed, same, _, worked⟩
  · exact .inl accepted
  · refine .inr ⟨⟨stage, listed, early⟩, fun answered => ?_⟩
    exact Bool.noConfusion (other.symm.trans answered.1)
  · have lower := worked.lower stage rfl
    refine .inr ⟨⟨before.stage, ?_, by omega⟩, fun answered => ?_⟩
    · rwa [eq_of_moved same]
    · rcases worked.sent with silent | ⟨ending, _⟩
      · exact answered.2 silent
      · obtain rfl := Option.some.inj ending
        simp [AiTask.Stage.rank] at early

theorem uncancelled_since {stage : AiTask.Stage} (early : 4 ≤ stage.rank) (member :
    { task with stage } ∈ (events.foldl (next redactSensitiveText) (create config)).tasks)
    (unmarked : task.key ∉
      (events.foldl (next redactSensitiveText) (create config)).cancelledRequests) :
    HappenedSince (next redactSensitiveText) (create config) (accepts redactSensitiveText task)
      (fun handler event => ¬ cancels redactSensitiveText task.userId task.requestId handler event)
      events := by
  refine HappenedSince.of_steps (fun handler => ∃ stage : AiTask.Stage,
    { task with stage } ∈ handler.tasks ∧ 4 ≤ stage.rank ∧ task.key ∉ handler.cancelledRequests)
    (by simp [create]) ?_ events ⟨stage, member, early, unmarked⟩
  rintro earlier event ⟨stage, member, early, unmarked⟩
  have kept := run_kept redactSensitiveText config earlier
  have before (marked : task.key ∈
      (earlier.foldl (next redactSensitiveText) (create config)).cancelledRequests) : False :=
    unmarked (show ({ task with stage } : AiTask).key ∈ _ from
      kept.cancelled_stays member (show 3 ≤ stage.rank by omega) marked)
  have spared : ¬ cancels redactSensitiveText task.userId task.requestId
      (earlier.foldl (next redactSensitiveText) (create config)) event := by
    rintro ⟨_, _, _, _, marked⟩
    exact unmarked marked
  rcases kept.origin member with ⟨_, accepted⟩ | ⟨listed, _⟩ | ⟨worker, listed, same, _, worked⟩
  · exact .inl accepted
  · exact .inr ⟨⟨stage, listed, early, before⟩, spared⟩
  · have lower := worked.lower stage rfl
    refine .inr ⟨⟨worker.stage, ?_, by omega, before⟩, spared⟩
    rwa [eq_of_moved same]

theorem confirmed_since {result : AiReplyResult} (member : { task with stage := .confirmed result } ∈
    (events.foldl (next redactSensitiveText) (create config)).tasks) :
    HappenedSince (next redactSensitiveText) (create config)
      (fun handler _ => { task with stage := .answered result } ∈ handler.tasks ∧
        task.key ∉ handler.cancelledRequests) (fun _ _ => True) events := by
  refine HappenedSince.of_steps (fun handler =>
    { task with stage := .confirmed result } ∈ handler.tasks) (by simp [create]) ?_ events member
  intro earlier event member
  have kept := run_kept redactSensitiveText config earlier
  rcases kept.origin member with ⟨fresh, _⟩ | ⟨listed, _⟩ | ⟨worker, listed, same, _, worked⟩
  · cases fresh
  · exact .inr ⟨listed, trivial⟩
  · obtain ⟨answered, unmarked⟩ := worked.confirmed result rfl
    have whole : { task with stage := .answered result } = worker := answered ▸ eq_of_moved same
    refine .inl ⟨whole ▸ listed, ?_⟩
    rw [← whole] at unmarked
    exact unmarked

end

theorem safeSuggestions_bounds (suggestions : List Bytes) :
    (safeSuggestions suggestions).length ≤ 3 ∧
      ∀ text ∈ safeSuggestions suggestions, text ≠ [] ∧ text.length ≤ 240 := by
  unfold safeSuggestions
  refine List.foldlRecOn (motive := fun safe : List Bytes =>
    safe.length ≤ 3 ∧ ∀ text ∈ safe, text ≠ [] ∧ text.length ≤ 240) suggestions _ (by simp) ?_
  rintro safe ⟨few, each⟩ suggestion _
  dsimp only
  split
  · rename_i taken
    refine ⟨by simp only [List.length_append, List.length_singleton]; omega, fun text member => ?_⟩
    rcases List.mem_append.mp member with old | new
    · exact each text old
    · obtain rfl := List.mem_singleton.mp new
      exact ⟨taken.1, utf8Truncate_length⟩
  · exact ⟨few, each⟩

/-- A thread's result answers one accepted request, after which the user's thread had sent nothing;
and suggestions come only where no cancel was on record before the model's result was looked at. -/
theorem reply_sound (redactSensitiveText : Bytes → Bytes) (config : AiConfig) (events : List Event)
    (server : Server) (generated : AiReplyResult) (userId : Int32) {conn : ConnId}
    {answer : AiReplyRs}
    (sent : ((events.foldl (next redactSensitiveText) (create config)).next redactSensitiveText
      (.work server generated userId)).sent =
        (conn, answer) :: (events.foldl (next redactSensitiveText) (create config)).sent) :
    ∃ task : AiTask, task.userId = userId ∧ task.weakSession = some conn ∧
      task.requestId = answer.requestId ∧
      HappenedSince (next redactSensitiveText) (create config) (accepts redactSensitiveText task)
        (fun handler event => ¬ answers redactSensitiveText userId handler event) events ∧
      (answer.status = .ok →
        (answer.suggestions ≠ [] ∧ answer.suggestions.length ≤ 3 ∧
          ∀ text ∈ answer.suggestions, text ≠ [] ∧ text.length ≤ 240) ∧
        ∃ looked later result, looked ++ later = events ∧
          { task with stage := .answered result } ∈
            (looked.foldl (next redactSensitiveText) (create config)).tasks ∧
          answer.suggestions = safeSuggestions result.suggestions ∧
          HappenedSince (next redactSensitiveText) (create config)
            (accepts redactSensitiveText task)
            (fun handler event => ¬ cancels redactSensitiveText userId answer.requestId handler event)
            looked) := by
  cases found : (events.foldl (next redactSensitiveText) (create config)).taskOf userId with
  | none => simp [AiHandler.next, found] at sent
  | some task =>
      have member := List.mem_of_find?_eq_some found
      obtain rfl : task.userId = userId := by simpa using List.find?_some found
      simp only [AiHandler.next, found] at sent
      obtain ⟨stage, worked⟩ := work_worked redactSensitiveText server generated _ task
      rcases worked.sent with silent | ⟨rfl, target, reply, session, delivered, id, ok⟩
      · rw [silent] at sent
        simp at sent
      rw [delivered, List.cons.injEq, Prod.mk.injEq] at sent
      obtain ⟨⟨rfl, rfl⟩, _⟩ := sent
      have lower := worked.lower .finishing rfl
      refine ⟨task, rfl, session, id.symm,
        open_since redactSensitiveText config task lower member, fun success => ?_⟩
      obtain ⟨result, confirmed, suggestions, some⟩ := ok success
      have bounds := safeSuggestions_bounds result.suggestions
      rw [← suggestions] at bounds
      refine ⟨⟨some, bounds⟩, ?_⟩
      have waiting : { task with stage := .confirmed result } ∈
          (events.foldl (next redactSensitiveText) (create config)).tasks := by
        rw [← confirmed]
        exact member
      obtain ⟨looked, event, rest, split, ⟨answered, unmarked⟩, _⟩ :=
        confirmed_since redactSensitiveText config task waiting
      refine ⟨looked, event :: rest, result, split.symm, answered, suggestions, ?_⟩
      rw [id]
      refine uncancelled_since redactSensitiveText config task ?_ answered unmarked
      exact le_refl 4

theorem reply_sound_suggesting : ∃ task : AiTask, task.userId = 1 ∧ task.requestId = ascii "r-1" ∧
    HappenedSince (next id) (create keyed) (accepts id task)
      (fun handler event => ¬ answers id 1 handler event) suggesting := by
  have sent : ((suggesting.foldl (next id) (create keyed)).next id
      (.work Server.afterFirstChat {} 1)).sent =
        (10, ⟨ascii "r-1", .ok, [ascii "on my way"], "", true⟩) ::
          (suggesting.foldl (next id) (create keyed)).sent := by
    decide +kernel
  obtain ⟨task, user, _, request, since, _⟩ :=
    reply_sound id keyed suggesting Server.afterFirstChat {} 1 sent
  exact ⟨task, user, request, since⟩

end AiHandler

end Jitong
