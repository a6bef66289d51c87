import LibreLinux.Agent.SignRequests

/-!
# A requested appearance

A request may ask for a visible signature: a map with a page, a rectangle and a text. The
resolution looks for a map and takes any other value for an absent one, so a mistyped request
is signed without the appearance. It checks the page as a 64-bit number and stores it as a
32-bit one, and both casts drop a fraction.

Whether a request is honoured, or at least refused, is decided by the type of the value and
by the page alone, once the other options are accepted.
-/

namespace LibreLinux.Agent

/-- The resolved options show what the value asks for: its text, on its page. -/
def Honoured (value : OptionValue) (resolved : ResolvedSignOptions) : Prop :=
  resolved.format = "pades" ∧ ∃ entries text page visual, value = .dict entries ∧
    nestedText entries = some text ∧ optNestedNumber entries "page" = some page ∧
    resolved.visual = some visual ∧ visual.text = text ∧ (visual.page : ℚ) = page

/-- The request is honoured, or refused as an unsupported parameter. -/
def HonouredOrRefused (value : OptionValue) : Except BusError ResolvedSignOptions → Prop
  | .error error => error.name = kBadParamErrName
  | .ok resolved => Honoured value resolved

/-- A whole number in the range of the 32-bit signed type. -/
def WholePage (page : ℚ) : Prop := ∃ number : Int, page = number ∧ InIntRange number

/-- The whole part of a whole number. -/
theorem truncated_whole (number : Int) : truncated (number : ℚ) = number := by
  simp [truncated]

/-- A page survives the cast to the 32-bit signed type exactly when it is a whole number in its
range. -/
theorem page_survives_iff (casts : Casts) (lawful : casts.Lawful) (page : ℚ) :
    (casts.toInt page : ℚ) = page ↔ WholePage page := by
  constructor
  · intro same
    exact ⟨casts.toInt page, same.symm, lawful.bounded page⟩
  · rintro ⟨number, rfl, inside⟩
    have whole := truncated_whole number
    rw [lawful.truncates number (by rw [whole]; exact inside), whole]

section Appearance

variable (params : SignatureParams) (casts : Casts) (config : SignConfig) (options : OptionMap)

/-- The options other than the appearance are accepted, in this format. -/
def OthersAccepted (sniffSource : List UInt8) (format : String) : Prop :=
  ∃ tsaUrl level packaging, resolveFormat params options sniffSource = .ok format ∧
    resolveTsaUrl params options = .ok tsaUrl ∧
    resolveLevel params config options tsaUrl = .ok level ∧
    resolvePackaging params options format = .ok packaging

/-- A map with all six fields and a geometry that passes the check. -/
def Complete (entries : OptionMap) (page x y width height : ℚ) (text : String) : Prop :=
  optNestedNumber entries "page" = some page ∧ optNestedNumber entries "x" = some x ∧
    optNestedNumber entries "y" = some y ∧ optNestedNumber entries "width" = some width ∧
    optNestedNumber entries "height" = some height ∧ nestedText entries = some text ∧
    params.isValidVisualGeometry (casts.toInt64 page) x y width height = true

/-- The value can be honoured or is refused: it is a map, and where the map is complete for the
format that can show it, its page is a whole number in range. -/
def Honourable (format : String) (value : OptionValue) : Prop :=
  ∃ entries, value = .dict entries ∧
    (format = "pades" → ∀ page x y width height text,
      Complete params casts entries page x y width height text → WholePage page)

variable {params casts config options}

/-- An appearance is resolved from a complete map, in the one format. -/
theorem resolve_visual_iff (format : String) (entries : OptionMap)
    (nested : optNestedMap options "visualSignature" = some entries)
    (visual : Option VisualParams) :
    resolveVisual params casts options format = .ok visual ↔
      format = "pades" ∧ ∃ page x y width height text,
        Complete params casts entries page x y width height text ∧
        visual = some ⟨casts.toInt page, casts.toFloat x, casts.toFloat y, casts.toFloat width,
          casts.toFloat height, text⟩ := by
  simp only [resolveVisual, nested]
  by_cases shown : format = "pades"
  · rw [if_neg (not_not.mpr shown)]
    constructor
    · intro accepted
      refine ⟨shown, ?_⟩
      split at accepted
      · rename_i page x y width height text first second third fourth fifth sixth
        split_ifs at accepted with valid
        · exact ⟨page, x, y, width, height, text,
            ⟨first, second, third, fourth, fifth, sixth, valid⟩, (Except.ok.inj accepted).symm⟩
        · exact absurd accepted (bad_param_ne_ok _ _)
      · exact absurd accepted (bad_param_ne_ok _ _)
    · rintro ⟨-, page, x, y, width, height, text,
        ⟨first, second, third, fourth, fifth, sixth, valid⟩, rfl⟩
      simp only [first, second, third, fourth, fifth, sixth, valid, if_true]
  · rw [if_pos shown]
    exact ⟨fun accepted => absurd accepted (bad_param_ne_ok _ _), fun both => absurd both.1 shown⟩

/-- A value that is no map is taken for an absent one. -/
theorem resolve_visual_mistyped (format : String) (value : OptionValue)
    (present : options.lookup "visualSignature" = some value)
    (mistyped : ∀ entries, value ≠ .dict entries) :
    resolveVisual params casts options format = .ok none := by
  have absent : optNestedMap options "visualSignature" = none := by
    rw [optNestedMap, present]
    cases value with
    | dict entries => exact absurd rfl (mistyped entries)
    | _ => rfl
  rw [resolveVisual, absent]

/-- A requested appearance is honoured or refused, if and only if, when the other options are
accepted, it is a map whose page, where the map is complete, is a whole number in range. -/
theorem honoured_or_refused_iff (lawful : casts.Lawful) (sniffSource : List UInt8)
    (value : OptionValue) (present : options.lookup "visualSignature" = some value) :
    HonouredOrRefused value (resolveSignOptions params casts config options sniffSource) ↔
      ∀ format, OthersAccepted params config options sniffSource format →
        Honourable params casts format value := by
  constructor
  · rintro settled format ⟨tsaUrl, level, packaging, first, second, third, fourth⟩
    have resolves : ∀ visual, resolveVisual params casts options format = .ok visual →
        ∃ resolved, Honoured value resolved ∧ resolved.visual = visual := by
      intro visual shown
      have accepted := (resolved_iff params casts config options sniffSource
        ⟨format, level, packaging, _, _, _, tsaUrl, visual⟩).mpr
        ⟨first, second, third, fourth, shown, rfl, rfl, rfl⟩
      rw [accepted] at settled
      exact ⟨_, settled, rfl⟩
    by_cases mapped : ∃ entries, value = .dict entries
    · obtain ⟨entries, rfl⟩ := mapped
      refine ⟨entries, rfl, ?_⟩
      intro pades page x y width height text complete
      have nested : optNestedMap options "visualSignature" = some entries := by
        rw [optNestedMap, present]
      obtain ⟨resolved, ⟨-, _, _, requested, visual, same, -, asked, placed, -, equal⟩, own⟩ :=
        resolves _ ((resolve_visual_iff format entries nested _).mpr
          ⟨pades, page, x, y, width, height, text, complete, rfl⟩)
      cases same
      cases Option.some.inj (complete.1.symm.trans asked)
      cases Option.some.inj (own.symm.trans placed)
      exact (page_survives_iff casts lawful page).mp equal
    · -- The mistyped value is dropped, and the request is accepted without it.
      have mistyped : ∀ entries, value ≠ .dict entries := fun entries same => mapped ⟨entries, same⟩
      obtain ⟨resolved, ⟨-, _, _, _, _, same, _⟩, -⟩ :=
        resolves none (resolve_visual_mistyped format value present mistyped)
      exact absurd same (mistyped _)
  · intro honourable
    cases outcome : resolveSignOptions params casts config options sniffSource with
    | error error => exact options_refused_name params casts config options sniffSource error outcome
    | ok resolved =>
      obtain ⟨first, second, third, fourth, shown, -⟩ :=
        (resolved_iff params casts config options sniffSource resolved).mp outcome
      obtain ⟨entries, rfl, whole⟩ :=
        honourable resolved.format ⟨_, _, _, first, second, third, fourth⟩
      have nested : optNestedMap options "visualSignature" = some entries := by
        rw [optNestedMap, present]
      obtain ⟨pades, page, x, y, width, height, text, complete, placed⟩ :=
        (resolve_visual_iff resolved.format entries nested resolved.visual).mp shown
      have survives := (page_survives_iff casts lawful page).mpr
        (whole pades page x y width height text complete)
      obtain ⟨asked, -, -, -, -, named, -⟩ := complete
      exact ⟨pades, entries, text, page, _, rfl, named, asked, placed, rfl, survives⟩

end Appearance

namespace SignAgent

variable {σ : Type} (agent : SignAgent σ)

/-- The condition on a request and the document its format is inferred from: when the other
options are accepted, the appearance is a map whose page, where the map is complete, is a
whole number in range. -/
def AppearanceSound (options : OptionMap) (value : OptionValue) (sniffSource : List UInt8) : Prop :=
  ∀ format, OthersAccepted agent.params agent.config options sniffSource format →
    Honourable agent.params agent.casts format value

/-- A request that asks for an appearance: its options are resolved to honour it, or refused as
an unsupported parameter, if and only if the condition holds; and whatever `Sign` or
`SignBatch` launches for it shows the appearance, on the requested page, if and only if it
does. -/
theorem appearance_honoured_iff (lawful : agent.casts.Lawful) (options : OptionMap)
    (value : OptionValue) (present : options.lookup "visualSignature" = some value) :
    (∀ sniffSource, HonouredOrRefused value (agent.resolve options sniffSource) ↔
      agent.AppearanceSound options value sniffSource) ∧
    (∀ state authorization sender certId document request,
      request ∈ (agent.sign state authorization sender certId document options).2.launches →
      request ∈ state.launches ∨ ∃ bytes, document = .ok bytes ∧
        (Honoured value (launchParams request).options ↔
          agent.AppearanceSound options value bytes)) ∧
    ∀ state authorization sender documents certId request,
      request ∈ (agent.signBatch state authorization sender documents certId options).2.launches →
      request ∈ state.launches ∨ ∃ inputs, agent.batchInputs documents = .ok inputs ∧
        (Honoured value (launchParams request).options ↔
          agent.AppearanceSound options value (frontBytes inputs)) := by
  have settled : ∀ sniffSource, HonouredOrRefused value (agent.resolve options sniffSource) ↔
      agent.AppearanceSound options value sniffSource :=
    fun sniffSource => honoured_or_refused_iff lawful sniffSource value present
  refine ⟨settled, ?_, ?_⟩
  · intro state authorization sender certId document request member
    rcases agent.sign_launches_resolved state authorization sender certId options document request
        member with earlier | ⟨bytes, read, resolved⟩
    · exact Or.inl earlier
    · have honoured := settled bytes
      rw [resolved] at honoured
      exact Or.inr ⟨bytes, read, honoured⟩
  · intro state authorization sender documents certId request member
    rcases agent.sign_batch_launches_resolved state authorization sender certId options documents
        request member with earlier | ⟨inputs, read, resolved⟩
    · exact Or.inl earlier
    · have honoured := settled (frontBytes inputs)
      rw [resolved] at honoured
      exact Or.inr ⟨inputs, read, honoured⟩

/-- An appearance on the third page. -/
def thirdPage : OptionMap :=
  [("page", .uint32 2), ("x", .double 0), ("y", .double 0), ("width", .int32 100),
    ("height", .double (101 / 2)), ("text", .string "Approved")]

/-- It is honoured. -/
theorem third_page_honoured :
    HonouredOrRefused (.dict thirdPage)
      (openAgent.resolve [("visualSignature", .dict thirdPage)] pdfBytes) := by
  refine ((openAgent.appearance_honoured_iff documented_casts_lawful
    [("visualSignature", .dict thirdPage)] (.dict thirdPage) rfl).1 pdfBytes).mpr ?_
  intro format _
  refine ⟨thirdPage, rfl, ?_⟩
  intro _ page x y width height text complete
  have two : optNestedNumber thirdPage "page" = some 2 := by rfl
  cases Option.some.inj (two.symm.trans complete.1)
  exact ⟨2, by norm_num, by decide⟩

/-- An appearance asked for by a text is dropped, and the document is signed without it. -/
theorem mistyped_appearance_dropped :
    ¬ ∀ options value, options.lookup "visualSignature" = some value →
      ∀ request ∈
        (openAgent.sign ⟨(), [], []⟩ .granted ":1.7" "sign" (.ok pdfBytes) options).2.launches,
        Honoured value (launchParams request).options := by
  intro always
  have honoured := always [("visualSignature", .string "Approved")] (.string "Approved") rfl _
    List.mem_cons_self
  obtain ⟨-, _, _, _, _, mapped, -⟩ := honoured
  cases mapped

end SignAgent

end LibreLinux.Agent
