import LibreLinux.Pkcs11.Enumerate

/-!
# What one step of a snapshot call can do

The cases of `advance` and of a visit, each with the state it starts from and the
state it leads to. Every fact about a whole call is proved over these cases.
-/

namespace LibreLinux.Pkcs11

open Wire (ManagedObjects Interfaces)

variable {κ ε : Type}

/-- Where a visit leads. -/
inductive Visited (shared : Shared ε) (walk : Walk ε) : Phase ε → Prop where
  | finished : walk.todo = [] → Visited shared walk (.storing walk.readers walk.complete)
  | other (object : String × Interfaces) (rest : ManagedObjects) : walk.todo = object :: rest →
      visitObject (ε := ε) walk.managed object = .other →
      Visited shared walk (.walking { walk with todo := rest })
  | mistyped (object : String × Interfaces) (rest : ManagedObjects) : walk.todo = object :: rest →
      visitObject (ε := ε) walk.managed object = .mistyped → Visited shared walk .thrown
  | vacant (object : String × Interfaces) (rest : ManagedObjects) (reader : ReaderState ε) :
      walk.todo = object :: rest → visitObject walk.managed object = .vacant reader →
      Visited shared walk (.walking ({ walk with todo := rest }.keep reader))
  | known (object : String × Interfaces) (rest : ManagedObjects) (reader : ReaderState ε)
      (card : String) (preAuth : PreReadAuth) : walk.todo = object :: rest →
      visitObject walk.managed object = .occupied reader card preAuth → card ∈ shared.settledCards →
      Visited shared walk (.settling { walk with todo := rest } reader card)
  | asked (object : String × Interfaces) (rest : ManagedObjects) (reader : ReaderState ε)
      (card : String) (preAuth : PreReadAuth) : walk.todo = object :: rest →
      visitObject walk.managed object = .occupied reader card preAuth → card ∉ shared.settledCards →
      Visited shared walk (.calling { walk with todo := rest } reader card preAuth)

/-- A visit is one of these. -/
theorem visited (shared : Shared ε) (walk : Walk ε) : Visited shared walk (visitNext shared walk) := by
  cases todo : walk.todo with
  | nil =>
    rw [show visitNext shared walk = .storing walk.readers walk.complete by simp only [visitNext, todo]]
    exact .finished todo
  | cons object rest =>
    simp only [visitNext, todo]
    cases found : visitObject (ε := ε) walk.managed object with
    | other => exact .other object rest todo found
    | mistyped => exact .mistyped object rest todo found
    | vacant reader => exact .vacant object rest reader todo found
    | occupied reader card preAuth =>
      dsimp only
      split_ifs with settled
      · exact .known object rest reader card preAuth todo found settled
      · exact .asked object rest reader card preAuth todo found settled

/-- The phases in which a card's read is pending. -/
inductive Pending (walk : Walk ε) (reader : ReaderState ε) (card : String) (preAuth : PreReadAuth) :
    Phase ε → Prop where
  | calling : Pending walk reader card preAuth (.calling walk reader card preAuth)
  | reading : Pending walk reader card preAuth (.reading walk reader card preAuth)

/-- The steps of a call. -/
inductive Advanced (library : Library κ ε) (shared : Shared ε) :
    Phase ε → Input → Shared ε → Phase ε → Prop where
  | exchange : Advanced library shared .entered .exchange { shared with dirty := false }
      (if shared.dirty then .enumerating else .serving)
  | serve : Advanced library shared .serving .serve shared (.returned shared.cached)
  | begin : Advanced library shared .enumerating .begin shared (.asking shared.generation)
  | refused (generation : UInt64) :
      Advanced library shared (.asking generation) (.answer none) shared (.storing [] false)
  | answered (generation : UInt64) (managed : ManagedObjects) :
      Advanced library shared (.asking generation) (.answer (some managed)) shared
        (.walking { generation, managed, todo := managed })
  | visit (walk : Walk ε) (after : Phase ε) : Visited shared walk after →
      Advanced library shared (.walking walk) .visit shared after
  | accept (walk : Walk ε) (reader : ReaderState ε) (card : String) (preAuth : PreReadAuth) :
      Advanced library shared (.calling walk reader card preAuth) .accept shared
        (.reading walk reader card preAuth)
  | ended (walk : Walk ε) (reader : ReaderState ε) (card : String) (preAuth : PreReadAuth)
      (read : ReadEnd) (phase : Phase ε) : Pending walk reader card preAuth phase →
      ((∃ end', read = .finished end') → phase = .reading walk reader card preAuth) →
      Advanced library shared phase (.ended read) shared
        (afterRead library walk reader card preAuth (readCerts library read))
  | settle (walk : Walk ε) (reader : ReaderState ε) (card : String) :
      Advanced library shared (.settling walk reader card) .settle
        (settleCard shared card walk.generation)
        (.walking (walk.keep (tokenTexts library card reader)))
  | store (readers : List (ReaderState ε)) (complete : Bool) :
      Advanced library shared (.storing readers complete) .store { shared with cached := readers }
        (.marking readers complete)
  | mark (readers : List (ReaderState ε)) (complete : Bool) :
      Advanced library shared (.marking readers complete) .mark
        { shared with dirty := shared.dirty || !complete } (.returned readers)

/-- Every step of a call is one of these. -/
theorem advanced (library : Library κ ε) (shared next : Shared ε) (phase after : Phase ε)
    (input : Input) (stepped : advance library shared phase input = some (next, after)) :
    Advanced library shared phase input next after := by
  unfold advance at stepped
  split at stepped <;> cases stepped
  case h_1 => exact .exchange
  case h_2 => exact .serve
  case h_3 => exact .begin
  case h_4 generation => exact .refused generation
  case h_5 generation managed => exact .answered generation managed
  case h_6 walk => exact .visit walk _ (visited shared walk)
  case h_7 walk reader card preAuth => exact .accept walk reader card preAuth
  case h_8 walk reader card preAuth errorName =>
    exact .ended walk reader card preAuth _ _ .calling (by rintro ⟨_, ⟨⟩⟩)
  case h_9 walk reader card preAuth =>
    exact .ended walk reader card preAuth _ _ .calling (by rintro ⟨_, ⟨⟩⟩)
  case h_10 walk reader card preAuth read =>
    exact .ended walk reader card preAuth read _ .reading (fun _ => rfl)
  case h_11 walk reader card => exact .settle walk reader card
  case h_12 readers complete => exact .store readers complete
  case h_13 readers complete => exact .mark readers complete

/-- The generation a phase's enumeration started in. -/
def Phase.generation? : Phase ε → Option UInt64
  | .asking generation => some generation
  | .walking walk => some walk.generation
  | .calling walk _ _ _ => some walk.generation
  | .reading walk _ _ _ => some walk.generation
  | .settling walk _ _ => some walk.generation
  | _ => none

/-- Enumeration starts in the generation it reads, and carries it to the end. -/
theorem advanced_generation (library : Library κ ε) (shared next : Shared ε) (phase after : Phase ε)
    (input : Input) (stepped : Advanced library shared phase input next after) :
    next.generation = shared.generation ∧ ∀ generation, after.generation? = some generation →
      phase.generation? = some generation ∨ (input = .begin ∧ generation = shared.generation) := by
  cases stepped with
  | exchange => exact ⟨rfl, by split_ifs <;> simp [Phase.generation?]⟩
  | begin => exact ⟨rfl, by simp [Phase.generation?, eq_comm]⟩
  | answered generation managed => exact ⟨rfl, fun other found => Or.inl found⟩
  | visit walk after visit =>
    refine ⟨rfl, fun generation found => Or.inl ?_⟩
    cases visit with
    | finished todo => cases found
    | mistyped object rest todo visit => cases found
    | _ => exact found
  | accept walk reader card preAuth => exact ⟨rfl, fun generation found => Or.inl found⟩
  | ended walk reader card preAuth read phase pending =>
    refine ⟨rfl, fun generation found => Or.inl ?_⟩
    have kept : some walk.generation = some generation := by
      cases outcome : readCerts library read with
      | askAgain =>
        rw [outcome] at found
        exact found
      | settled =>
        rw [outcome] at found
        exact found
      | read certificates =>
        simp only [outcome, afterRead] at found
        split at found
        · cases found
        · exact found
    cases pending <;> exact kept
  | settle walk reader card =>
    refine ⟨?_, fun generation found => Or.inl found⟩
    rw [settleCard]
    split_ifs <;> rfl
  | _ => exact ⟨rfl, by simp [Phase.generation?]⟩

end LibreLinux.Pkcs11
