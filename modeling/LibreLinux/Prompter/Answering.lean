import LibreLinux.Prompter.Service
import Mathlib.Data.List.Perm.Basic
import Mathlib.Data.List.Range

/-!
# Who answers a prompt

Every reply handle is in one place: in hand of the running handler, in a posted
raise, in the registry, or used. The places together are a permutation of the
handles issued so far, whatever the interleaving, because a handler only moves a
handle from one place to the next. That a handle is used at most once, and never
while its window is registered, is then a property of permutations.

A window takes its entry by the registry's handle, and the registry's counter has
64 bits. So this holds as long as fewer than `2 ^ 64` windows were registered:
then the entry a window takes is its own. That the registry stays aligned and that
refusals carry nothing holds in every run.
-/

namespace LibreLinux.Prompter

open Wire

/-- The reply handle a posted task holds. -/
def GuiTask.raising : GuiTask → Option RequestId
  | .raise request => some request.request
  | _ => none

namespace Service

/-- The reply handles waiting in the queue. -/
def raising (posted : List GuiTask) : List RequestId := posted.filterMap GuiTask.raising

/-- Every place a reply handle can be, `hand` being the running handler's. -/
def places (hand : List RequestId) (state : Service) : List RequestId :=
  state.answers.map Answer.request ++
    (hand ++ (raising state.posted ++ state.registry.live.map (fun pair => pair.2.window)))

/-- An answer that grants nothing carries empty descriptors, or one that could
not be created. -/
def Harmless (answer : Answer) : Prop :=
  answer.granted = false → ∀ fd ∈ answer.fds, fd = none ∨ fd = some ⟨"", none⟩

/-- What every run keeps: the registry is that of the registrations made, and what
is refused carries no secret. -/
structure Kept (state : Service) : Prop where
  recorded : state.registry.Recorded state.registrations
  harmless : ∀ answer ∈ state.answers, Harmless answer

/-- What runs below the counter's limit keep: handles are conserved, registered
windows exist and know their handle, every window's handle was issued for it, and
a window waiting for deletion has been answered. -/
structure Sound (hand : List RequestId) (state : Service) : Prop where
  conserved : (state.places hand).Perm (List.range state.nextRequest)
  registered : ∀ handle entry, (handle, entry) ∈ state.registry.live →
    ∃ window, state.windows entry.window = some window ∧ window.handle = handle
  identified : ∀ id window, state.windows id = some window →
    ∃ entry, (window.handle, entry) ∈ state.registrations ∧ entry.window = id
  deleting : ∀ id, GuiTask.deleteLater id ∈ state.posted → id ∈ state.answers.map Answer.request

/-- The prompter starts with nothing registered. -/
theorem kept_initial : Kept {} where
  recorded := PromptRegistry.recorded_initial
  harmless := by simp

/-- The prompter starts with nothing issued. -/
theorem sound_initial : Sound [] {} where
  conserved := List.Perm.refl []
  registered := by simp [PromptRegistry.live]
  identified := by simp
  deleting := by simp

/-- The empty descriptors of a refusal are harmless. -/
theorem empty_fds_harmless (request : RequestId) (status : PromptReplyStatus) (multi : Bool)
    (memfds : Memfds) : Harmless ⟨request, status, emptyFds multi memfds⟩ := by
  intro _ fd member
  have created : ∀ flag, makeEmptySealedFd flag = none ∨ makeEmptySealedFd flag = some ⟨"", none⟩ := by
    decide
  cases multi <;> simp only [emptyFds, Bool.false_eq_true, if_true, if_false, List.mem_cons,
    List.not_mem_nil, or_false] at member
  · exact member ▸ created memfds.emptyPrimary
  · rcases member with rfl | rfl
    · exact created memfds.emptyPrimary
    · exact created memfds.emptySecondary

/-- A completion that grants nothing sends empty descriptors. -/
theorem completion_harmless (request : RequestId) (window : Window) (accepted : Bool)
    (memfds : Memfds) :
    Harmless ⟨request, (window.complete accepted memfds).status,
      (window.complete accepted memfds).fds⟩ := by
  unfold Window.complete
  split
  · unfold Window.completeSecrets
    split
    · split
      · intro refused
        simp [Answer.granted] at refused
      · exact empty_fds_harmless request .error true memfds
    · exact empty_fds_harmless request window.closedStatus true memfds
  · unfold Window.completeSecret
    split
    · split
      · exact empty_fds_harmless request .error false memfds
      · intro refused
        simp only [Answer.granted] at refused
        split at refused <;> simp at refused
    · exact empty_fds_harmless request window.closedStatus false memfds

variable {state : Service} {hand : List RequestId}

/-! ## One operation -/

/-- What a `finished` emission does: nothing to a window without an entry, else it
takes the first entry of the window's handle, answers the window's request and posts
its deletion. -/
theorem finished_cases (id : WindowId) (window : Window) (accepted : Bool) (memfds : Memfds)
    (aligned : state.registry.Aligned) :
    state.finished id window accepted memfds = state ∨
      ∃ registry before after entry, registry.Aligned ∧
        registry.nextHandle = state.registry.nextHandle ∧
        state.registry.live = before ++ (window.handle, entry) :: after ∧
        registry.live = before ++ after ∧
        state.finished id window accepted memfds =
          (({ state with registry }.setWindow id
              (some { window with dialog := (window.complete accepted memfds).dialog })).answer
            ⟨id, (window.complete accepted memfds).status,
              (window.complete accepted memfds).fds⟩).post (.deleteLater id) := by
  cases found : state.registry.find window.handle with
  | none =>
    left
    rw [finished, PromptRegistry.take_unknown aligned.lengths window.handle found]
  | some entry =>
    right
    obtain ⟨registry, before, after, taken, aligned, issued, split, removed⟩ :=
      PromptRegistry.take_live aligned window.handle entry found
    refine ⟨registry, before, after, entry, aligned, issued, split, removed, ?_⟩
    rw [finished, taken]

/-- What raising a window does: a request whose prompt id is live is refused, any other
is registered under the counter's handle and shown. -/
theorem raise_cases (request : RaiseRequest) (now : Nat) (memfds : Memfds)
    (aligned : state.registry.Aligned) :
    state.raiseWindow request now memfds =
        state.refuse request.request request.multi .error memfds ∨
      ∃ registry, registry.Aligned ∧ registry.nextHandle = state.registry.nextHandle + 1 ∧
        registry.live = state.registry.live ++ [(state.registry.nextHandle, request.entry)] ∧
        state.raiseWindow request now memfds =
          { state with
            registry
            registrations :=
              state.registrations ++ [(state.registry.nextHandle, request.entry)] }.setWindow
            request.request (some
              { handle := state.registry.nextHandle, dialog := newDialog request now,
                offerMrzSwitch := request.offerMrzSwitch, multi := request.multi }) := by
  cases claimed : state.registry.findByPromptId request.promptId with
  | some handle =>
    left
    rw [raiseWindow, PromptRegistry.add_claimed aligned _ _ _ handle claimed]
  | none =>
    right
    obtain ⟨registry, added, aligned, issued, appended⟩ := PromptRegistry.add_fresh aligned
      request.request request.ownerPid request.promptId claimed
    refine ⟨registry, aligned, issued, appended, ?_⟩
    rw [raiseWindow, added]

/-- A dismissal posts at most one reject, to a window the registry holds under a handle
of the prompt id. -/
theorem dismiss_posts (state : Service) (promptId : String) (callerPid : Pid) :
    state.dismissOnGuiThread promptId callerPid = state ∨
      ∃ handle entry, state.registry.findByPromptId promptId = some handle ∧
        state.registry.find handle = some entry ∧ entry.ownerPid = callerPid ∧
        state.dismissOnGuiThread promptId callerPid =
          state.post (.reject entry.window (.cancel promptId callerPid)) := by
  unfold dismissOnGuiThread
  split
  · exact Or.inl rfl
  · rename_i handle named
    split
    · exact Or.inl rfl
    · rename_i entry found
      split
      · rename_i owned
        obtain ⟨-, owner⟩ : entry.ownerPid ≠ 0 ∧ entry.ownerPid = callerPid := by
          simpa [isActivePromptOwner] using owned
        exact Or.inr ⟨handle, entry, named, found, owner, rfl⟩
      · exact Or.inl rfl

/-- With distinct handles the reject goes to the live window that carries the id, and
it belongs to the caller. -/
theorem dismiss_cases (promptId : String) (callerPid : Pid) (aligned : state.registry.Aligned)
    (distinct : state.registry.handles.Nodup) :
    state.dismissOnGuiThread promptId callerPid = state ∨
      ∃ handle id, promptId ≠ "" ∧ (handle, ⟨id, callerPid, promptId⟩) ∈ state.registry.live ∧
        state.dismissOnGuiThread promptId callerPid =
          state.post (.reject id (.cancel promptId callerPid)) := by
  rcases dismiss_posts _ promptId callerPid with idle | ⟨handle, entry, named, found, owner, posted⟩
  · exact Or.inl idle
  · obtain ⟨filled, other, live, carried⟩ :=
      (PromptRegistry.find_by_prompt_id_iff aligned promptId handle).mp named
    have same : entry = other := Option.some.inj
      (found.symm.trans ((PromptRegistry.find_iff aligned distinct handle other).mpr live))
    refine Or.inr ⟨handle, entry.window, filled, ?_, posted⟩
    rw [← owner, ← carried, same]
    exact live

/-- Dismissing every window only posts rejects. -/
theorem dismiss_every_posts (entries : List Entry) (start : Service) :
    ∃ rejects : List WindowId,
      entries.foldl (fun state entry => state.post (.reject entry.window .reset)) start =
        { start with posted := start.posted ++ rejects.map (fun id => .reject id .reset) } := by
  induction entries generalizing start with
  | nil => exact ⟨[], by simp⟩
  | cons entry entries inductionHypothesis =>
    obtain ⟨rejects, posted⟩ := inductionHypothesis (start.post (.reject entry.window .reset))
    refine ⟨entry.window :: rejects, ?_⟩
    rw [List.foldl_cons, posted]
    simp [post]

/-! ## What every operation keeps -/

/-- One more reply that grants nothing, or carries its secret. -/
theorem kept_answer (answer : Answer) (harmless : Harmless answer) (kept : state.Kept) :
    (state.answer answer).Kept where
  recorded := kept.recorded
  harmless other member := by
    rcases List.mem_append.mp member with earlier | latest
    · exact kept.harmless other earlier
    · exact List.mem_singleton.mp latest ▸ harmless

/-- A refusal. -/
theorem kept_refuse (request : RequestId) (multi : Bool) (status : PromptReplyStatus)
    (memfds : Memfds) (kept : state.Kept) : (state.refuse request multi status memfds).Kept :=
  kept_answer _ (empty_fds_harmless request status multi memfds) kept

/-- Raising a window. -/
theorem kept_raise (request : RaiseRequest) (now : Nat) (memfds : Memfds) (kept : state.Kept) :
    (state.raiseWindow request now memfds).Kept := by
  rcases raise_cases request now memfds kept.recorded.aligned with refused |
    ⟨registry, aligned, issued, appended, raised⟩
  · rw [refused]
    exact kept_refuse _ _ _ memfds kept
  · rw [raised]
    exact ⟨PromptRegistry.recorded_more kept.recorded registry request.entry aligned issued appended,
      kept.harmless⟩

/-- A `finished` emission. -/
theorem kept_finished (id : WindowId) (window : Window) (accepted : Bool) (memfds : Memfds)
    (kept : state.Kept) : (state.finished id window accepted memfds).Kept := by
  rcases finished_cases id window accepted memfds kept.recorded.aligned with idle |
    ⟨registry, before, after, entry, aligned, issued, split, removed, answered⟩
  · rw [idle]
    exact kept
  · rw [answered]
    have fewer : registry.live.Sublist state.registry.live := by
      rw [removed, split]
      exact (List.Sublist.refl before).append (List.sublist_cons_self _ after)
    have taken : Kept ({ state with registry }.setWindow id
        (some { window with dialog := (window.complete accepted memfds).dialog })) :=
      ⟨PromptRegistry.recorded_fewer kept.recorded registry aligned issued fewer, kept.harmless⟩
    have replied := kept_answer _ (completion_harmless id window accepted memfds) taken
    exact ⟨replied.recorded, replied.harmless⟩

/-- A performed task. -/
theorem kept_perform (task : GuiTask) (now : Nat) (memfds : Memfds) (kept : state.Kept) :
    (state.perform task now memfds).Kept := by
  cases task with
  | raise request => exact kept_raise request now memfds kept
  | dismiss promptId callerPid =>
    rcases dismiss_posts state promptId callerPid with idle | ⟨_, _, _, _, _, posted⟩
    · rw [perform, idle]
      exact kept
    · rw [perform, posted]
      exact ⟨kept.recorded, kept.harmless⟩
  | dismissEvery =>
    obtain ⟨rejects, posted⟩ :=
      dismiss_every_posts (state.registry.handles.filterMap state.registry.find) state
    rw [perform, dismissEveryWindowOnGuiThread, posted]
    exact ⟨kept.recorded, kept.harmless⟩
  | reject id cause =>
    rw [perform]
    split
    · exact kept
    · exact kept_finished id _ false memfds kept
  | deleteLater id => exact ⟨kept.recorded, kept.harmless⟩

/-! ## What operations below the limit keep -/

/-- No handle is in two places. -/
theorem places_nodup (sound : state.Sound hand) : (state.places hand).Nodup :=
  sound.conserved.nodup_iff.mpr List.nodup_range

/-- A used handle is not registered. -/
theorem answered_unregistered (sound : state.Sound hand) (request : RequestId)
    (answered : request ∈ state.answers.map Answer.request) (handle : Handle) (entry : Entry)
    (live : (handle, entry) ∈ state.registry.live) : entry.window ≠ request := by
  intro same
  have apart := (List.nodup_append.mp (places_nodup sound)).2.2
  refine apart request answered request ?_ rfl
  simp only [List.mem_append, List.mem_map]
  exact Or.inr (Or.inr ⟨(handle, entry), live, same⟩)

/-- A handle in hand is not registered. -/
theorem in_hand_unregistered (request : RequestId) (sound : state.Sound [request])
    (handle : Handle) (entry : Entry)
    (live : (handle, entry) ∈ state.registry.live) : entry.window ≠ request := by
  intro same
  have rest := (List.nodup_append.mp (places_nodup sound)).2.1
  refine (List.nodup_append.mp rest).2.2 request (by simp) request ?_ rfl
  simp only [List.mem_append, List.mem_map]
  exact Or.inr ⟨(handle, entry), live, same⟩

/-- A request that arrives brings the next handle. -/
theorem sound_issued (sound : state.Sound []) : state.nextReply.Sound [state.nextRequest] where
  conserved := by
    have moved : (state.nextReply.places [state.nextRequest]).Perm
        (state.places [] ++ [state.nextRequest]) := by
      simp only [places, nextReply, List.nil_append, List.singleton_append]
      exact List.perm_middle.trans (List.perm_append_singleton _ _).symm
    rw [nextReply, List.range_succ]
    exact moved.trans (sound.conserved.append_right _)
  registered := sound.registered
  identified := sound.identified
  deleting := sound.deleting

/-- A refusal uses the handle in hand. -/
theorem sound_answer (answer : Answer) (sound : state.Sound [answer.request]) :
    (state.answer answer).Sound [] where
  conserved := by
    have same : (state.answer answer).places [] = state.places [answer.request] := by
      simp [places, Service.answer]
    exact same ▸ sound.conserved
  registered := sound.registered
  identified := sound.identified
  deleting := by
    intro id member
    simp only [Service.answer, List.map_append, List.mem_append]
    exact Or.inl (sound.deleting id member)

/-- Posting a task hands it the handle it raises. -/
theorem sound_post (task : GuiTask) (sound : state.Sound (task.raising.toList))
    (answered : ∀ id, task = .deleteLater id → id ∈ state.answers.map Answer.request) :
    (state.post task).Sound [] where
  conserved := by
    refine List.Perm.trans ?_ sound.conserved
    apply List.Perm.append_left
    have queued : raising (state.posted ++ [task]) = raising state.posted ++ task.raising.toList := by
      cases raised : task.raising <;> simp [raising, raised]
    simp only [post, queued, List.nil_append]
    rw [← List.append_assoc]
    exact List.perm_append_comm.append_right _
  registered := sound.registered
  identified := sound.identified
  deleting := by
    intro id member
    rcases List.mem_append.mp member with earlier | latest
    · exact sound.deleting id earlier
    · exact answered id (List.mem_singleton.mp latest).symm

/-- A task taken off the queue leaves its handle in hand. -/
theorem sound_dequeued (index : Nat) (task : GuiTask) (queued : state.posted[index]? = some task)
    (sound : state.Sound []) :
    Sound task.raising.toList { state with posted := state.posted.eraseIdx index } where
  conserved := by
    refine List.Perm.trans ?_ sound.conserved
    apply List.Perm.append_left
    obtain ⟨bounded, at_index⟩ := List.getElem?_eq_some_iff.mp queued
    have moved : (task :: state.posted.eraseIdx index).Perm state.posted := by
      rw [← at_index]
      exact List.getElem_cons_eraseIdx_perm bounded
    have raised := moved.filterMap GuiTask.raising
    have front : raising (task :: state.posted.eraseIdx index) =
        task.raising.toList ++ raising (state.posted.eraseIdx index) := by
      cases raised : task.raising <;> simp [raising, raised]
    rw [← List.append_assoc, ← front]
    exact raised.append_right _
  registered := sound.registered
  identified := sound.identified
  deleting := fun id member => sound.deleting id (List.mem_of_mem_eraseIdx member)

/-- Changing a window's dialog changes neither its handle nor its entry. -/
theorem sound_dialog (id : WindowId) (window : Window) (dialog : PromptDialog)
    (shown : state.windows id = some window) (sound : state.Sound hand) :
    (state.setWindow id (some { window with dialog })).Sound hand where
  conserved := sound.conserved
  registered := by
    intro handle entry live
    obtain ⟨registered, present, handled⟩ := sound.registered handle entry live
    by_cases same : entry.window = id
    · have equal : registered = window := Option.some.inj (present.symm.trans (same ▸ shown))
      exact ⟨{ window with dialog }, by simp [setWindow, same], equal ▸ handled⟩
    · exact ⟨registered, by simp [setWindow, same, present], handled⟩
  identified := by
    intro other changed present
    by_cases same : other = id
    · subst other
      simp only [setWindow, Function.update_self, Option.some.injEq] at present
      subst changed
      exact sound.identified id window shown
    · simp only [setWindow, Function.update_of_ne same] at present
      exact sound.identified other changed present
  deleting := sound.deleting

/-- A window is deleted only after it was answered, so no entry loses its
window. -/
theorem sound_deleted (id : WindowId) (answered : id ∈ state.answers.map Answer.request)
    (sound : state.Sound hand) : (state.setWindow id none).Sound hand where
  conserved := sound.conserved
  registered := by
    intro handle entry live
    have other := answered_unregistered sound id answered handle entry live
    obtain ⟨window, present, handled⟩ := sound.registered handle entry live
    exact ⟨window, by simp [setWindow, other, present], handled⟩
  identified := by
    intro other window present
    by_cases same : other = id
    · simp [setWindow, same] at present
    · simp only [setWindow, Function.update_of_ne same] at present
      exact sound.identified other window present
  deleting := sound.deleting

/-- Registering the window of the handle in hand moves the handle into the
registry. -/
theorem sound_registered (registry : PromptRegistry) (handle : Handle) (entry : Entry)
    (window : Window) (appended : registry.live = state.registry.live ++ [(handle, entry)])
    (handled : window.handle = handle) (sound : state.Sound [entry.window]) :
    ({ state with
        registry, registrations := state.registrations ++ [(handle, entry)] }.setWindow
      entry.window (some window)).Sound [] where
  conserved := by
    refine List.Perm.trans ?_ sound.conserved
    simp only [places, setWindow, appended, List.map_append, List.map_cons, List.map_nil,
      List.nil_append]
    apply List.Perm.append_left
    rw [← List.append_assoc]
    exact List.perm_append_comm
  registered := by
    intro other stored live
    simp only [setWindow, appended, List.mem_append, List.mem_singleton, Prod.mk.injEq] at live
    rcases live with earlier | ⟨rfl, rfl⟩
    · have apart := in_hand_unregistered entry.window sound other stored earlier
      obtain ⟨shown, present, same⟩ := sound.registered other stored earlier
      exact ⟨shown, by simp [setWindow, apart, present], same⟩
    · exact ⟨window, by simp [setWindow], handled⟩
  identified := by
    intro id shown present
    by_cases same : id = entry.window
    · simp only [setWindow, same, Function.update_self, Option.some.injEq] at present
      exact ⟨entry, by simp [setWindow, ← present, handled], same.symm⟩
    · simp only [setWindow, Function.update_of_ne same] at present
      obtain ⟨stored, issued, own⟩ := sound.identified id shown present
      exact ⟨stored, List.mem_append_left _ issued, own⟩
  deleting := sound.deleting

/-- Taking a window's entry leaves its handle in hand. -/
theorem sound_taken (registry : PromptRegistry) (id : WindowId) (handle : Handle) (entry : Entry)
    (before after : List (Handle × Entry))
    (split : state.registry.live = before ++ (handle, entry) :: after)
    (removed : registry.live = before ++ after) (same : entry.window = id)
    (sound : state.Sound []) : Sound [id] { state with registry } where
  conserved := by
    refine List.Perm.trans ?_ sound.conserved
    simp only [places, split, removed, List.map_append, List.map_cons, same, List.nil_append,
      List.singleton_append]
    apply List.Perm.append_left
    simp only [← List.append_assoc]
    exact List.perm_middle.symm
  registered := by
    intro other entry live
    apply sound.registered other entry
    simp only [split, removed, List.mem_append, List.mem_cons] at live ⊢
    tauto
  identified := sound.identified
  deleting := sound.deleting

/-- Below the limit the entry of a window's handle is the window's own. -/
theorem own_entry (kept : state.Kept) (sound : state.Sound hand)
    (below : state.registrations.length < 2 ^ 64) (id : WindowId) (window : Window)
    (shown : state.windows id = some window) (entry : Entry)
    (live : (window.handle, entry) ∈ state.registry.live) : entry.window = id := by
  obtain ⟨issued, registered, own⟩ := sound.identified id window shown
  rw [PromptRegistry.issued_once kept.recorded below window.handle entry issued
    (kept.recorded.kept.mem live) registered]
  exact own

/-- A `finished` emission keeps the invariant, however often it comes. -/
theorem sound_finished (id : WindowId) (window : Window) (accepted : Bool) (memfds : Memfds)
    (shown : state.windows id = some window) (below : state.registrations.length < 2 ^ 64)
    (kept : state.Kept) (sound : state.Sound []) :
    (state.finished id window accepted memfds).Sound [] := by
  rcases finished_cases id window accepted memfds kept.recorded.aligned with idle |
    ⟨registry, before, after, entry, aligned, issued, split, removed, answered⟩
  · rw [idle]
    exact sound
  · rw [answered]
    have own := own_entry kept sound below id window shown entry (by simp [split])
    have taken := sound_taken registry id window.handle entry before after split removed own sound
    have captured : ({ state with registry }.setWindow id
        (some { window with dialog := (window.complete accepted memfds).dialog })).Sound [id] :=
      sound_dialog id window _ shown taken
    apply sound_post
    · exact sound_answer _ captured
    · intro other deleted
      cases deleted
      simp [Service.answer]

/-- Raising a window keeps the invariant: it is registered, or its request is
refused. -/
theorem sound_raise (request : RaiseRequest) (now : Nat) (memfds : Memfds) (kept : state.Kept)
    (sound : state.Sound [request.request]) : (state.raiseWindow request now memfds).Sound [] := by
  rcases raise_cases request now memfds kept.recorded.aligned with refused |
    ⟨registry, aligned, issued, appended, raised⟩
  · rw [refused]
    exact sound_answer _ sound
  · rw [raised]
    exact sound_registered registry _ request.entry _ appended rfl sound

/-- Rejects hold no handle and delete nothing. -/
theorem sound_dismiss_every (entries : List Entry) (start : Service) (sound : start.Sound []) :
    (entries.foldl (fun state entry => state.post (.reject entry.window .reset)) start).Sound [] := by
  induction entries generalizing start with
  | nil => exact sound
  | cons entry entries inductionHypothesis =>
    apply inductionHypothesis
    exact sound_post _ sound (by simp)

/-- A performed task keeps the invariant, its handle being in hand. -/
theorem sound_perform (task : GuiTask) (now : Nat) (memfds : Memfds)
    (below : state.registrations.length < 2 ^ 64) (kept : state.Kept)
    (sound : state.Sound task.raising.toList)
    (answered : ∀ id, task = .deleteLater id → id ∈ state.answers.map Answer.request) :
    (state.perform task now memfds).Sound [] := by
  cases task with
  | raise request => exact sound_raise request now memfds kept sound
  | dismiss promptId callerPid =>
    rcases dismiss_posts state promptId callerPid with idle | ⟨_, _, _, _, _, posted⟩
    · rw [perform, idle]
      exact sound
    · rw [perform, posted]
      exact sound_post _ sound (by simp)
  | dismissEvery => exact sound_dismiss_every _ state sound
  | reject id cause =>
    rw [perform]
    split
    · exact sound
    · rename_i window shown
      exact sound_finished id window false memfds shown below kept sound
  | deleteLater id => exact sound_deleted id (answered id rfl) sound

/-! ## One step -/

/-- The tasks of the two dismissal calls. -/
def GuiDismissal : GuiTask → Prop
  | .dismiss _ _ => True
  | .dismissEvery => True
  | _ => False

/-- What a step can do to the process. A bus call raises or posts the window of
the handle it brought, or refuses it; a dismissal performs or posts its lookup;
the GUI thread performs a posted task; a window's dialog changes, with or
without a `finished` emission. -/
inductive Change (state : Service) : Service → Prop
  | idle : Change state state
  | refused (multi : Bool) (status : PromptReplyStatus) (memfds : Memfds) :
      Change state (state.nextReply.refuse state.nextRequest multi status memfds)
  | raised (request : RaiseRequest) (own : request.request = state.nextRequest) (now : Nat)
      (memfds : Memfds) : Change state (state.nextReply.perform (.raise request) now memfds)
  | raisePosted (request : RaiseRequest) (own : request.request = state.nextRequest) :
      Change state (state.nextReply.post (.raise request))
  | dismissed (task : GuiTask) (dismissal : GuiDismissal task) (now : Nat) (memfds : Memfds) :
      Change state (state.perform task now memfds)
  | dismissPosted (task : GuiTask) (dismissal : GuiDismissal task) : Change state (state.post task)
  | performed (index : Nat) (task : GuiTask) (queued : state.posted[index]? = some task) (now : Nat)
      (memfds : Memfds) :
      Change state ({ state with posted := state.posted.eraseIdx index }.perform task now memfds)
  | dialog (id : WindowId) (window : Window) (shown : state.windows id = some window)
      (dialog : PromptDialog) : Change state (state.setWindow id (some { window with dialog }))
  | finished (id : WindowId) (window : Window) (shown : state.windows id = some window)
      (dialog : PromptDialog) (accepted : Bool) (memfds : Memfds) :
      Change state ((state.setWindow id (some { window with dialog })).finished id
        { window with dialog } accepted memfds)

/-- A delivered raise is one of the changes of a bus call. -/
theorem change_raise (request : RaiseRequest) (own : request.request = state.nextRequest)
    (delivery : Delivery) (multi : Bool) (now : Nat) (memfds : Memfds) :
    Change state (state.nextReply.deliver delivery (.raise request)
      (state.nextReply.refuse state.nextRequest multi .error memfds) now memfds) := by
  cases delivery with
  | direct => exact .raised request own now memfds
  | queued => exact .raisePosted request own
  | failed => exact .refused multi .error memfds

/-- A delivered dismissal is one of the changes of a bus call. -/
theorem change_dismiss (task : GuiTask) (dismissal : GuiDismissal task) (delivery : Delivery)
    (now : Nat) (memfds : Memfds) :
    Change state (state.deliver delivery task state now memfds) := by
  cases delivery with
  | direct => exact .dismissed task dismissal now memfds
  | queued => exact .dismissPosted task dismissal
  | failed => exact .idle

/-- Every step is one of the changes.

Cases follow the event and the branches of its function; each ends in one change. -/
theorem step_change (state : Service) (event : Event) (next : Service)
    (stepped : step state event = some next) : Change state next := by
  cases event with
  | requestSecret callerPid kind options delivery now memfds =>
    cases Option.some.inj stepped
    simp only [requestSecret]
    split
    · exact .refused _ _ _
    · split
      · exact .refused _ _ _
      · apply change_raise
        rfl
  | requestSecrets callerPid kind options delivery now memfds =>
    cases Option.some.inj stepped
    simp only [requestSecrets]
    split
    · exact .refused _ _ _
    · split
      · exact .refused _ _ _
      · apply change_raise
        rfl
  | cancel promptId callerPid delivery now memfds =>
    cases Option.some.inj stepped
    rw [cancel]
    split
    · exact .idle
    · exact change_dismiss (.dismiss promptId callerPid) trivial delivery now memfds
  | reset callerPid delivery now memfds =>
    cases Option.some.inj stepped
    rw [reset]
    split
    · exact .idle
    · exact change_dismiss .dismissEvery trivial delivery now memfds
  | perform index now memfds =>
    obtain ⟨task, queued, rfl⟩ := Option.map_eq_some_iff.mp stepped
    exact .performed index task queued now memfds
  | interact id action =>
    simp only [step, Option.bind_eq_bind, Option.bind_eq_some_iff, Option.pure_def,
      Option.some.injEq] at stepped
    obtain ⟨window, shown, dialog, _, rfl⟩ := stepped
    exact .dialog id window shown dialog
  | accept id memfds =>
    simp only [step, Option.bind_eq_bind, Option.bind_eq_some_iff, Option.pure_def,
      Option.some.injEq] at stepped
    obtain ⟨window, shown, rfl⟩ := stepped
    split
    · exact .finished id window shown _ true memfds
    · exact .dialog id window shown _
  | done id accepted memfds =>
    simp only [step, Option.bind_eq_bind, Option.bind_eq_some_iff, Option.pure_def,
      Option.some.injEq] at stepped
    obtain ⟨window, shown, rfl⟩ := stepped
    have unchanged : state.setWindow id (some { window with dialog := window.dialog }) = state := by
      rw [setWindow, ← shown, Function.update_eq_self]
    have emitted := Change.finished id window shown window.dialog accepted memfds
    rw [unchanged] at emitted
    exact emitted
  | expire id now memfds =>
    simp only [step, Option.bind_eq_bind, Option.bind_eq_some_iff] at stepped
    obtain ⟨window, shown, fired⟩ := stepped
    split at fired
    · cases Option.some.inj fired
      exact .finished id window shown _ false memfds
    · cases fired

/-- A task registers at most one window more. -/
theorem perform_registers (state : Service) (task : GuiTask) (now : Nat) (memfds : Memfds) :
    state.registrations.length ≤ (state.perform task now memfds).registrations.length := by
  cases task with
  | raise request =>
    rw [perform, raiseWindow]
    split
    · exact Nat.le_refl _
    · simp [setWindow]
  | dismiss promptId callerPid =>
    rcases dismiss_posts state promptId callerPid with idle | ⟨_, _, _, _, _, posted⟩
    · rw [perform, idle]
    · rw [perform, posted]
      exact Nat.le_refl _
  | dismissEvery =>
    obtain ⟨rejects, posted⟩ :=
      dismiss_every_posts (state.registry.handles.filterMap state.registry.find) state
    rw [perform, dismissEveryWindowOnGuiThread, posted]
  | reject id cause =>
    rw [perform]
    split
    · exact Nat.le_refl _
    · rw [finished]
      split <;> exact Nat.le_refl _
  | deleteLater id => exact Nat.le_refl _

/-- No registration is taken back. -/
theorem registrations_grow (state : Service) (event : Event) (next : Service)
    (stepped : step state event = some next) :
    state.registrations.length ≤ next.registrations.length := by
  cases step_change state event next stepped with
  | raised request own now memfds =>
    exact perform_registers state.nextReply (.raise request) now memfds
  | dismissed task dismissal now memfds => exact perform_registers state task now memfds
  | performed index task queued now memfds =>
    exact perform_registers { state with posted := state.posted.eraseIdx index } task now memfds
  | finished id window shown dialog accepted memfds =>
    rw [Service.finished]
    split <;> exact Nat.le_refl _
  | _ => exact Nat.le_refl _

/-- Every step keeps the record. -/
theorem kept_step (state : Service) (event : Event) (next : Service) (kept : state.Kept)
    (stepped : step state event = some next) : next.Kept := by
  have issued : state.nextReply.Kept := ⟨kept.recorded, kept.harmless⟩
  cases step_change state event next stepped with
  | idle => exact kept
  | refused multi status memfds => exact kept_refuse _ multi status memfds issued
  | raised request own now memfds => exact kept_perform (.raise request) now memfds issued
  | raisePosted request own => exact ⟨kept.recorded, kept.harmless⟩
  | dismissed task dismissal now memfds => exact kept_perform task now memfds kept
  | dismissPosted task dismissal => exact ⟨kept.recorded, kept.harmless⟩
  | performed index task queued now memfds =>
    exact kept_perform task now memfds ⟨kept.recorded, kept.harmless⟩
  | dialog id window shown dialog => exact ⟨kept.recorded, kept.harmless⟩
  | finished id window shown dialog accepted memfds =>
    exact kept_finished id _ accepted memfds ⟨kept.recorded, kept.harmless⟩

/-- Every step below the limit keeps the invariant. -/
theorem sound_step (state : Service) (event : Event) (next : Service)
    (below : state.registrations.length < 2 ^ 64) (kept : state.Kept) (sound : state.Sound [])
    (stepped : step state event = some next) : next.Sound [] := by
  have issued := sound_issued sound
  have recorded : state.nextReply.Kept := ⟨kept.recorded, kept.harmless⟩
  have inHand : ∀ request : RaiseRequest, request.request = state.nextRequest →
      state.nextReply.Sound (GuiTask.raise request).raising.toList :=
    fun request own => by rw [GuiTask.raising, own]; exact issued
  cases step_change state event next stepped with
  | idle => exact sound
  | refused multi status memfds => exact sound_answer _ issued
  | raised request own now memfds =>
    exact sound_perform (.raise request) now memfds below recorded (inHand request own) (by simp)
  | raisePosted request own => exact sound_post (.raise request) (inHand request own) (by simp)
  | dismissed task dismissal now memfds =>
    cases task <;> cases dismissal <;> exact sound_perform _ now memfds below kept sound (by simp)
  | dismissPosted task dismissal =>
    cases task <;> cases dismissal <;> exact sound_post _ sound (by simp)
  | performed index task queued now memfds =>
    have dequeued := sound_dequeued index task queued sound
    refine sound_perform task now memfds below ⟨kept.recorded, kept.harmless⟩ dequeued ?_
    intro id deleted
    exact sound.deleting id (deleted ▸ List.mem_of_getElem? queued)
  | dialog id window shown dialog => exact sound_dialog id window dialog shown sound
  | finished id window shown dialog accepted memfds =>
    exact sound_finished id _ accepted memfds (by simp [setWindow]) below
      ⟨kept.recorded, kept.harmless⟩ (sound_dialog id window dialog shown sound)

/-- Every reachable state is recorded. -/
theorem reached_kept (events : List Event) (state : Service)
    (reached : Runs.run step {} events = some state) : state.Kept :=
  Runs.run_invariant step Kept kept_step events {} state kept_initial reached

/-- Every state reached below the limit satisfies the invariant. No earlier state had
more registrations, so every step was below the limit. -/
theorem reached_sound (events : List Event) (state : Service)
    (reached : Runs.run step {} events = some state)
    (below : state.registrations.length < 2 ^ 64) : state.Sound [] := by
  have both : state.Kept ∧ state.Sound [] := by
    refine Runs.run_invariant_below step (fun state => state.registrations.length) (2 ^ 64)
      (fun state => state.Kept ∧ state.Sound []) registrations_grow ?_ events {} state
      ⟨kept_initial, sound_initial⟩ reached below
    rintro before event next bounded ⟨kept, sound⟩ stepped
    have earlier := lt_of_le_of_lt (registrations_grow before event next stepped) bounded
    exact ⟨kept_step before event next kept stepped,
      sound_step before event next earlier kept sound stepped⟩
  exact both.2

end Service

end LibreLinux.Prompter
