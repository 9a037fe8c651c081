import Mathlib.Data.Finset.Sort
import Mathlib.Data.String.Basic
import Missive.RedactionIdempotence
import Missive.Subscriptions

/-! The choice of the interface a call goes to: what an Agent Card advertises against what the
caller prefers, and the fallbacks for a card that advertises nothing. Of a card the negotiation
reads the interfaces alone. -/
namespace Missive.InterfaceNegotiation

open RustText JsonRedaction Missive.Core Schema JobWorkers Subscriptions

-- What is read of the url crate.
structure Urls where
  Url : Type
  parse : String → Option Url
  hostStr : Url → Option String

structure AgentInterface where
  url : String
  protocolBinding : String
  tenant : Option String
  protocolVersion : String

structure AgentCard where
  supportedInterfaces : List AgentInterface

def httpJsonBinding : String := "http+json"

def jsonRpcBinding : String := "json-rpc"

def grpcBinding : String := "grpc"

def locallySupportedBindings : List String := [httpJsonBinding, jsonRpcBinding]

def plannedBindings : List String := [grpcBinding]

def defaultBindingPreference : List String := locallySupportedBindings

def isLocallySupportedBinding (binding : String) : Bool := locallySupportedBindings.contains binding

def locallySupportedBindingsText : String := ", ".intercalate locallySupportedBindings

def canonicalProtocolBinding (value : String) : String :=
  let folded := lowercase (trim value.toList)
  let compact := String.ofList (folded.filter fun c => !(c == '+' || c == '-' || c == '_'))
  if compact = "httpjson" then httpJsonBinding
  else if compact = "jsonrpc" then jsonRpcBinding
  else if compact = "grpc" then grpcBinding
  else String.ofList folded

def localSupportHelp (binding : Option String) : String :=
  s!"Choose one of the locally supported A2A bindings: {locallySupportedBindingsText}." ++
    if binding.any plannedBindings.contains then
      " gRPC is recognized by the negotiation layer but is not implemented yet."
    else ""

def isBindingCharacter (c : Char) : Bool :=
  isAsciiLowercase c || isAsciiDigit c || c == '+' || c == '-' || c == '_' || c == '.'

def normalizeRequestedBinding (label value : String) : Except MissiveError String :=
  let binding := canonicalProtocolBinding value
  if binding = "" then
    .error ((MissiveError.validation s!"{label} cannot be empty").withHelp (localSupportHelp none))
  else if binding.toList.any fun c => !isBindingCharacter c then
    .error ((MissiveError.validation
      s!"{label} {debug value} is not a valid protocol binding name").withHelp
      (localSupportHelp none))
  else .ok binding

def normalizedAfter (seen : List String) : List String → Except MissiveError (List String)
  | [] => .ok []
  | value :: rest => do
      let binding ← normalizeRequestedBinding "binding preference" value
      if binding ∈ seen then normalizedAfter seen rest
      else do
        let later ← normalizedAfter (binding :: seen) rest
        .ok (binding :: later)

def normalizedPreferences (values : List String) : Except MissiveError (List String) :=
  normalizedAfter [] (if values.isEmpty then defaultBindingPreference else values)

def ensureLocallySupported (binding : String) : Except MissiveError Unit :=
  if isLocallySupportedBinding binding then .ok ()
  else .error ((MissiveError.transport (s!"A2A binding {debug binding} is not supported locally; " ++
    s!"missive supports locally: {locallySupportedBindingsText}")).withHelp
    (localSupportHelp (some binding)))

def firstCardInterface (card : AgentCard) (binding : String) : Option AgentInterface :=
  card.supportedInterfaces.find? fun interface =>
    canonicalProtocolBinding interface.protocolBinding == binding

def interfaceFromAgentCard (interface : AgentInterface) : NegotiatedInterface where
  binding := canonicalProtocolBinding interface.protocolBinding
  protocolBinding := interface.protocolBinding
  url := interface.url
  tenant := interface.tenant
  protocolVersion := interface.protocolVersion
  source := .agentCard

def remoteBindingsText (card : AgentCard) : String :=
  let bindings := (card.supportedInterfaces.map fun interface =>
    canonicalProtocolBinding interface.protocolBinding).eraseDups
  if bindings.isEmpty then "none"
  else ", ".intercalate (bindings.insertionSort fun left right => left ≤ right)

def noMutualInterfaceError (card : AgentCard) : MissiveError :=
  (MissiveError.transport (s!"no mutually supported A2A interface could be negotiated; " ++
    s!"missive supports locally: {locallySupportedBindingsText}; " ++
    s!"remote advertised: {remoteBindingsText card}")).withHelp
    ("Use an agent that advertises HTTP+JSON or JSONRPC, " ++
      "or add local support for another binding in a future extension.")

def overrideNotAdvertised (card : AgentCard) (binding : String) : MissiveError :=
  (MissiveError.transport
    (s!"A2A binding override {debug binding} is not advertised by the Agent Card; " ++
      s!"missive supports locally: {locallySupportedBindingsText}; " ++
      s!"remote advertised: {remoteBindingsText card}")).withHelp
    "Choose a binding advertised in supportedInterfaces, or refresh/update the Agent Card."

def unsupportedPreferences (preferences : List String) : MissiveError :=
  let listed := ", ".intercalate preferences
  (MissiveError.transport
    (s!"A2A interface negotiation cannot proceed because binding preference [{listed}] " ++
      s!"contains no locally supported bindings; " ++
      s!"missive supports locally: {locallySupportedBindingsText}")).withHelp
    (localSupportHelp none)

section Negotiate

variable (urls : Urls)

def validateInterfaceUrl (label value : String) : Except MissiveError Unit :=
  match urls.parse value with
  | none => .error ((MissiveError.validation s!"{label} must be an absolute URL").withHelp
      "Use an absolute http(s) URL such as https://agent.example/a2a.")
  | some parsed =>
      if (urls.hostStr parsed).isNone then
        .error ((MissiveError.validation s!"{label} must include a host").withHelp
          "Use an absolute http(s) URL such as https://agent.example/a2a.")
      else .ok ()

def fallbackInterface (binding url : String) (source : InterfaceSource) : NegotiatedInterface where
  binding := binding
  protocolBinding := binding
  url := url
  tenant := none
  protocolVersion := "unknown"
  source := source

def fallbackInterfaceForBinding (options : InterfaceNegotiationOptions) (binding : String) :
    Except MissiveError (Option NegotiatedInterface) :=
  match options.fallbackInterfaceUrls.find? fun pair =>
      canonicalProtocolBinding pair.1 == binding with
  | some pair => do
      validateInterfaceUrl urls "registry fallback interface URL" pair.2
      .ok (some (fallbackInterface binding pair.2 .registryOverride))
  | none =>
      if binding = httpJsonBinding then
        match options.fallbackBaseUrl with
        | some url => do
            validateInterfaceUrl urls "base URL fallback interface" url
            .ok (some (fallbackInterface binding url .baseUrlFallback))
        | none => .ok none
      else .ok none

def negotiateMissingInterfacesFallback (options : InterfaceNegotiationOptions)
    (requestedBinding : Option String) : List String → Except MissiveError NegotiatedInterface
  | [] =>
      let requested := (requestedBinding.map fun binding =>
        s!" for requested binding {debug binding}").getD ""
      .error ((MissiveError.transport
        (s!"A2A Agent Card does not declare supportedInterfaces and no registry/base-URL " ++
          s!"fallback interface is available{requested}; " ++
          s!"missive supports locally: {locallySupportedBindingsText}")).withHelp
        ("Add an explicit agent interface URL, use the HTTP+JSON base-URL fallback, " ++
          "or update the remote Agent Card."))
  | binding :: rest => do
      match ← fallbackInterfaceForBinding urls options binding with
      | some interface => .ok interface
      | none => negotiateMissingInterfacesFallback options requestedBinding rest

def negotiateRequestedBinding (card : AgentCard) (options : InterfaceNegotiationOptions)
    (binding : String) : Except MissiveError NegotiatedInterface :=
  match firstCardInterface card binding with
  | some interface => .ok (interfaceFromAgentCard interface)
  | none =>
      if card.supportedInterfaces.isEmpty then
        negotiateMissingInterfacesFallback urls options (some binding) [binding]
      else .error (overrideNotAdvertised card binding)

def negotiateAgentInterface (card : AgentCard) (options : InterfaceNegotiationOptions) :
    Except MissiveError NegotiatedInterface := do
  let preferences ← normalizedPreferences options.preferredBindings
  match options.bindingOverride with
  | some overrideBinding => do
      let binding ← normalizeRequestedBinding "binding override" overrideBinding
      ensureLocallySupported binding
      negotiateRequestedBinding urls card options binding
  | none =>
      let supported := preferences.filter isLocallySupportedBinding
      if supported.isEmpty then
        .error (unsupportedPreferences preferences)
      else
        match supported.findSome? (firstCardInterface card) with
        | some interface => .ok (interfaceFromAgentCard interface)
        | none =>
            if card.supportedInterfaces.isEmpty then
              negotiateMissingInterfacesFallback urls options none supported
            else .error (noMutualInterfaceError card)

end Negotiate

/-! What a call asks for, and what answers it. -/

-- The first element of a list with a property.
def First {Item : Type} (holds : Item → Prop) (items : List Item) (item : Item) : Prop :=
  ∃ before after, items = before ++ item :: after ∧ holds item ∧ ∀ earlier ∈ before, ¬holds earlier

structure ValidName (value : String) : Prop where
  filled : canonicalProtocolBinding value ≠ ""
  plain : ∀ c ∈ (canonicalProtocolBinding value).toList, isBindingCharacter c = true

structure ValidNames (options : InterfaceNegotiationOptions) : Prop where
  preferred : ∀ value ∈ options.preferredBindings, ValidName value
  requested : ∀ value, options.bindingOverride = some value → ValidName value

def preferences (options : InterfaceNegotiationOptions) : List String :=
  ((if options.preferredBindings.isEmpty then defaultBindingPreference
    else options.preferredBindings).map canonicalProtocolBinding).eraseDups

-- The bindings a call may be given, the most wanted one first.
def askedBindings (options : InterfaceNegotiationOptions) : List String :=
  ((options.bindingOverride.map fun value => [canonicalProtocolBinding value]).getD
    (preferences options)).filter isLocallySupportedBinding

def Advertises (card : AgentCard) (binding : String) : Prop :=
  ∃ interface ∈ card.supportedInterfaces,
    canonicalProtocolBinding interface.protocolBinding = binding

inductive Fallback (options : InterfaceNegotiationOptions) (binding : String) :
    NegotiatedInterface → Prop
  | registry {name url : String}
      (first : First (fun pair : String × String => canonicalProtocolBinding pair.1 = binding)
        options.fallbackInterfaceUrls (name, url)) :
      Fallback options binding (fallbackInterface binding url .registryOverride)
  | baseUrl {url : String}
      (unlisted : ∀ pair ∈ options.fallbackInterfaceUrls, canonicalProtocolBinding pair.1 ≠ binding)
      (http : binding = httpJsonBinding) (known : options.fallbackBaseUrl = some url) :
      Fallback options binding (fallbackInterface binding url .baseUrlFallback)

def HasFallback (options : InterfaceNegotiationOptions) (binding : String) : Prop :=
  ∃ interface, Fallback options binding interface

def Absolute (urls : Urls) (url : String) : Prop :=
  ∃ parsed, urls.parse url = some parsed ∧ (urls.hostStr parsed).isSome = true

inductive Chosen (urls : Urls) (card : AgentCard) (options : InterfaceNegotiationOptions)
    (bindings : List String) : NegotiatedInterface → Prop
  | advertised {binding : String} {interface : AgentInterface}
      (wanted : First (Advertises card) bindings binding)
      (first : First (fun interface => canonicalProtocolBinding interface.protocolBinding = binding)
        card.supportedInterfaces interface) :
      Chosen urls card options bindings (interfaceFromAgentCard interface)
  | fallback {binding : String} {interface : NegotiatedInterface}
      (silent : card.supportedInterfaces = [])
      (wanted : First (HasFallback options) bindings binding)
      (offered : Fallback options binding interface) (absolute : Absolute urls interface.url) :
      Chosen urls card options bindings interface

-- Nothing is there to choose, or the fallback that would be taken has no proper URL.
inductive Stuck (urls : Urls) (card : AgentCard) (options : InterfaceNegotiationOptions)
    (bindings : List String) : Prop
  | unmatched (advertising : card.supportedInterfaces ≠ [])
      (apart : ∀ binding ∈ bindings, ¬Advertises card binding)
  | unoffered (silent : card.supportedInterfaces = [])
      (bare : ∀ binding ∈ bindings, ¬HasFallback options binding)
  | improper {binding : String} {interface : NegotiatedInterface}
      (silent : card.supportedInterfaces = [])
      (wanted : First (HasFallback options) bindings binding)
      (offered : Fallback options binding interface) (improper : ¬Absolute urls interface.url)

section First

variable {Item : Type} {holds : Item → Prop}

theorem not_first_nil (item : Item) : ¬First holds [] item := by
  rintro ⟨before, after, whole, _⟩
  cases before <;> contradiction

theorem first_cons (head item : Item) (rest : List Item) :
    First holds (head :: rest) item ↔
      (holds head ∧ item = head) ∨ (¬holds head ∧ First holds rest item) := by
  constructor
  · rintro ⟨before, after, whole, here, fresh⟩
    cases before with
    | nil =>
        cases whole
        exact Or.inl ⟨here, rfl⟩
    | cons first before =>
        cases whole
        exact Or.inr ⟨fresh head List.mem_cons_self, before, after, rfl, here,
          fun earlier member => fresh earlier (List.mem_cons_of_mem head member)⟩
  · intro either
    cases either with
    | inl here =>
        cases here.2
        exact ⟨[], rest, rfl, here.1, fun earlier member => nomatch member⟩
    | inr later =>
        obtain ⟨before, after, rfl, here, fresh⟩ := later.2
        refine ⟨head :: before, after, rfl, here, ?_⟩
        intro earlier member
        cases member with
        | head => exact later.1
        | tail _ member => exact fresh earlier member

theorem First.mem {items : List Item} {item : Item} (first : First holds items item) :
    item ∈ items := by
  obtain ⟨before, after, rfl, _⟩ := first
  exact List.mem_append_right before List.mem_cons_self

theorem First.sound {items : List Item} {item : Item} (first : First holds items item) :
    holds item := by
  obtain ⟨before, after, rfl, here, _⟩ := first
  exact here

theorem First.unique {items : List Item} {left right : Item} (one : First holds items left)
    (other : First holds items right) : left = right := by
  induction items with
  | nil => exact absurd one (not_first_nil left)
  | cons head rest ih =>
      rw [first_cons] at one other
      cases one with
      | inl here =>
          cases other with
          | inl there => exact here.2.trans there.2.symm
          | inr there => exact absurd here.1 there.1
      | inr later =>
          cases other with
          | inl there => exact absurd there.1 later.1
          | inr there => exact ih later.2 there.2

theorem first_of_mem {items : List Item} {item : Item} (member : item ∈ items) (here : holds item) :
    ∃ first, First holds items first := by
  induction items with
  | nil => exact nomatch member
  | cons head rest ih =>
      by_cases found : holds head
      · exact ⟨head, (first_cons ..).mpr (Or.inl ⟨found, rfl⟩)⟩
      · cases member with
        | head => exact absurd here found
        | tail _ member =>
            obtain ⟨first, found'⟩ := ih member
            exact ⟨first, (first_cons ..).mpr (Or.inr ⟨found, found'⟩)⟩

theorem find_first {key : Item → Bool} {items : List Item} {item : Item} :
    items.find? key = some item ↔ First (fun item => key item = true) items item := by
  induction items with
  | nil => simpa using not_first_nil item
  | cons head rest ih =>
      rw [first_cons]
      by_cases found : key head = true
      · rw [List.find?_cons_of_pos found, Option.some_inj]
        simp only [found, true_and, not_true_eq_false, false_and, or_false]
        exact eq_comm
      · rw [List.find?_cons_of_neg found, ih]
        simp [found]

end First

/-! What the steps of a negotiation return. -/

theorem normalize_valid {label value : String} (valid : ValidName value) :
    normalizeRequestedBinding label value = .ok (canonicalProtocolBinding value) := by
  have plain : (canonicalProtocolBinding value).toList.any (fun c => !isBindingCharacter c) = false := by
    rw [List.any_eq_false]
    intro c member
    simp [valid.plain c member]
  rw [normalizeRequestedBinding, if_neg valid.filled, plain]
  rfl

theorem normalizedAfter_valid {values : List String} (valid : ∀ value ∈ values, ValidName value)
    (seen : List String) : normalizedAfter seen values =
      .ok ((values.map canonicalProtocolBinding).filter fun binding => binding ∉ seen).eraseDups := by
  induction values generalizing seen with
  | nil => rfl
  | cons value rest ih =>
      have later := ih fun value member => valid value (List.mem_cons_of_mem _ member)
      rw [normalizedAfter, normalize_valid (valid value List.mem_cons_self)]
      by_cases repeated : canonicalProtocolBinding value ∈ seen
      · simp [bind, Except.bind, repeated, later]
      · simp [bind, Except.bind, repeated, later, List.eraseDups_cons, List.filter_filter,
          beq_eq_decide]


theorem default_valid : ∀ value ∈ defaultBindingPreference, ValidName value := by
  intro value member
  have listed : value = httpJsonBinding ∨ value = jsonRpcBinding := by
    simpa [defaultBindingPreference, locallySupportedBindings] using member
  rcases listed with rfl | rfl
  · exact ⟨by decide, List.all_eq_true.mp (by decide)⟩
  · exact ⟨by decide, List.all_eq_true.mp (by decide)⟩

theorem normalizedPreferences_valid {options : InterfaceNegotiationOptions}
    (valid : ValidNames options) :
    normalizedPreferences options.preferredBindings = .ok (preferences options) := by
  have each : ∀ value ∈ (if options.preferredBindings.isEmpty then defaultBindingPreference
      else options.preferredBindings), ValidName value := by
    by_cases empty : options.preferredBindings.isEmpty = true
    · rw [if_pos empty]
      exact default_valid
    · rw [if_neg empty]
      exact valid.preferred
  rw [normalizedPreferences, normalizedAfter_valid each]
  simp [preferences]

section Card

variable {card : AgentCard} {options : InterfaceNegotiationOptions} {bindings : List String}

theorem firstCardInterface_some {binding : String} {interface : AgentInterface} :
    firstCardInterface card binding = some interface ↔
      First (fun interface => canonicalProtocolBinding interface.protocolBinding = binding)
        card.supportedInterfaces interface := by
  rw [firstCardInterface, find_first]
  simp only [beq_iff_eq]

theorem firstCardInterface_none {binding : String} :
    firstCardInterface card binding = none ↔ ¬Advertises card binding := by
  simp [firstCardInterface, Advertises]

theorem advertised_first {interface : AgentInterface} :
    bindings.findSome? (firstCardInterface card) = some interface ↔
      ∃ binding, First (Advertises card) bindings binding ∧
        First (fun interface => canonicalProtocolBinding interface.protocolBinding = binding)
          card.supportedInterfaces interface := by
  induction bindings with
  | nil =>
      simp only [List.findSome?_nil, reduceCtorEq, false_iff]
      rintro ⟨binding, first, _⟩
      exact not_first_nil binding first
  | cons head rest ih =>
      cases found : firstCardInterface card head with
      | none =>
          have absent := firstCardInterface_none.mp found
          rw [List.findSome?_cons, found]
          simp [ih, first_cons, absent]
      | some listed =>
          have first := firstCardInterface_some.mp found
          have present : Advertises card head := ⟨listed, first.mem, first.sound⟩
          rw [List.findSome?_cons, found]
          simp only [first_cons, present, true_and, not_true_eq_false, false_and, or_false,
            exists_eq_left, Option.some_inj]
          constructor
          · rintro rfl
            exact first
          · exact first.unique

theorem advertised_none :
    bindings.findSome? (firstCardInterface card) = none ↔
      ∀ binding ∈ bindings, ¬Advertises card binding := by
  simp only [List.findSome?_eq_none_iff, firstCardInterface_none]

end Card

section Fallbacks

variable {urls : Urls} {card : AgentCard} {options : InterfaceNegotiationOptions}
  {bindings : List String}

theorem validateInterfaceUrl_ok (label : String) {url : String} :
    validateInterfaceUrl urls label url = .ok () ↔ Absolute urls url := by
  unfold validateInterfaceUrl Absolute
  cases urls.parse url with
  | none => simp
  | some parsed => cases hosted : urls.hostStr parsed <;> simp [hosted]

theorem fallback_unique {binding : String} {left right : NegotiatedInterface}
    (one : Fallback options binding left) (other : Fallback options binding right) :
    left = right := by
  cases one with
  | registry first =>
      cases other with
      | registry second =>
          cases first.unique second
          rfl
      | baseUrl unlisted => exact absurd first.sound (unlisted _ first.mem)
  | baseUrl unlisted http known =>
      cases other with
      | registry second => exact absurd second.sound (unlisted _ second.mem)
      | baseUrl _ _ again =>
          cases known.symm.trans again
          rfl

theorem fallback_found (urls : Urls) {binding : String} {interface : NegotiatedInterface}
    (offered : Fallback options binding interface) : ∃ label,
    fallbackInterfaceForBinding urls options binding =
      (validateInterfaceUrl urls label interface.url).map fun _ => some interface := by
  cases offered with
  | @registry name url first =>
      have listed : options.fallbackInterfaceUrls.find? (fun pair =>
          canonicalProtocolBinding pair.1 == binding) = some (name, url) :=
        find_first.mpr (by simpa using first)
      refine ⟨"registry fallback interface URL", ?_⟩
      rw [fallbackInterfaceForBinding, listed]
      rfl
  | @baseUrl url unlisted http known =>
      have absent : options.fallbackInterfaceUrls.find? (fun pair =>
          canonicalProtocolBinding pair.1 == binding) = none := by
        simpa using unlisted
      refine ⟨"base URL fallback interface", ?_⟩
      rw [fallbackInterfaceForBinding, absent, known]
      simp only [http, if_true]
      rfl

theorem fallback_missing {binding : String} (bare : ¬HasFallback options binding) :
    fallbackInterfaceForBinding urls options binding = .ok none := by
  cases listed : options.fallbackInterfaceUrls.find? (fun pair =>
      canonicalProtocolBinding pair.1 == binding) with
  | some pair =>
      have first := find_first.mp listed
      exact absurd ⟨_, .registry (by simpa using first)⟩ bare
  | none =>
      rw [fallbackInterfaceForBinding, listed]
      by_cases http : binding = httpJsonBinding
      · cases known : options.fallbackBaseUrl with
        | none => simp [http]
        | some url => exact absurd ⟨_, .baseUrl (by simpa using listed) http known⟩ bare
      · simp [http]

theorem missing_ok {requested : Option String} {chosen : NegotiatedInterface} :
    negotiateMissingInterfacesFallback urls options requested bindings = .ok chosen ↔
      ∃ binding, First (HasFallback options) bindings binding ∧
        Fallback options binding chosen ∧ Absolute urls chosen.url := by
  induction bindings with
  | nil =>
      simp only [negotiateMissingInterfacesFallback, reduceCtorEq, false_iff]
      rintro ⟨binding, first, _⟩
      exact not_first_nil binding first
  | cons head rest ih =>
      rw [negotiateMissingInterfacesFallback]
      by_cases held : HasFallback options head
      · obtain ⟨interface, offered⟩ := held
        obtain ⟨label, found⟩ := fallback_found urls offered
        have here : ∀ binding, First (HasFallback options) (head :: rest) binding ↔
            binding = head := fun binding => by
          simp [first_cons, show HasFallback options head from ⟨interface, offered⟩]
        simp only [here, exists_eq_left, found]
        cases checked : validateInterfaceUrl urls label interface.url with
        | ok _ =>
            have absolute := (validateInterfaceUrl_ok label).mp checked
            constructor
            · intro returned
              cases returned
              exact ⟨offered, absolute⟩
            · intro chose
              rw [fallback_unique chose.1 offered]
              rfl
        | error error =>
            have relative : ¬Absolute urls interface.url := by
              rw [← validateInterfaceUrl_ok label, checked]
              nofun
            constructor
            · intro returned
              contradiction
            · intro chose
              rw [fallback_unique chose.1 offered] at chose
              exact absurd chose.2 relative
      · rw [fallback_missing held]
        simp only [first_cons, held, false_and, not_false_eq_true, true_and, false_or]
        exact ih

end Fallbacks

/-! A whole negotiation. -/

section Negotiation

variable {urls : Urls} {card : AgentCard} {options : InterfaceNegotiationOptions}
  {bindings : List String} {chosen : NegotiatedInterface}

-- What both ways of asking come to, with their own words for a refusal.
def settle (urls : Urls) (card : AgentCard) (options : InterfaceNegotiationOptions)
    (requested : Option String) (refusal : MissiveError) (bindings : List String) :
    Except MissiveError NegotiatedInterface :=
  match bindings.findSome? (firstCardInterface card) with
  | some interface => .ok (interfaceFromAgentCard interface)
  | none =>
      if card.supportedInterfaces.isEmpty then
        negotiateMissingInterfacesFallback urls options requested bindings
      else .error refusal

theorem settle_chosen {requested : Option String} {refusal : MissiveError} :
    settle urls card options requested refusal bindings = .ok chosen ↔
      Chosen urls card options bindings chosen := by
  unfold settle
  cases found : bindings.findSome? (firstCardInterface card) with
  | some interface =>
      obtain ⟨binding, wanted, first⟩ := advertised_first.mp found
      constructor
      · intro returned
        cases returned
        exact .advertised wanted first
      · intro chose
        cases chose with
        | advertised again second =>
            have same := advertised_first.mpr ⟨_, again, second⟩
            cases found.symm.trans same
            rfl
        | fallback silent =>
            have listed := first.mem
            rw [silent] at listed
            exact nomatch listed
  | none =>
      have apart := advertised_none.mp found
      dsimp only
      by_cases silent : card.supportedInterfaces = []
      · rw [if_pos (by simpa using silent), missing_ok]
        constructor
        · rintro ⟨binding, wanted, offered, absolute⟩
          exact .fallback silent wanted offered absolute
        · intro chose
          cases chose with
          | advertised again => exact absurd again.sound (apart _ again.mem)
          | fallback _ wanted offered absolute => exact ⟨_, wanted, offered, absolute⟩
      · rw [if_neg (by simpa using silent)]
        simp only [reduceCtorEq, false_iff]
        intro chose
        cases chose with
        | advertised again => exact absurd again.sound (apart _ again.mem)
        | fallback silent' => exact silent silent'

theorem chosen_nil : ¬Chosen urls card options [] chosen := by
  intro chose
  cases chose with
  | advertised wanted => exact not_first_nil _ wanted
  | fallback _ wanted => exact not_first_nil _ wanted

theorem requested_settles (binding : String) :
    negotiateRequestedBinding urls card options binding =
      settle urls card options (some binding) (overrideNotAdvertised card binding) [binding] := by
  unfold negotiateRequestedBinding settle
  rw [List.findSome?_cons]
  cases firstCardInterface card binding with
  | some interface => rfl
  | none => rfl

theorem override_chosen (valid : ValidNames options) {value : String}
    (requested : options.bindingOverride = some value) :
    negotiateAgentInterface urls card options = .ok chosen ↔
      Chosen urls card options (askedBindings options) chosen := by
  have asked : askedBindings options =
      [canonicalProtocolBinding value].filter isLocallySupportedBinding := by
    simp [askedBindings, requested]
  rw [asked]
  simp only [negotiateAgentInterface, normalizedPreferences_valid valid, requested,
    normalize_valid (valid.requested value requested), ensureLocallySupported, bind, Except.bind]
  by_cases supported : isLocallySupportedBinding (canonicalProtocolBinding value) = true
  · rw [if_pos supported, List.filter_cons_of_pos supported, requested_settles]
    exact settle_chosen
  · rw [if_neg supported, List.filter_cons_of_neg supported]
    exact iff_of_false nofun chosen_nil

theorem preferred_chosen (valid : ValidNames options) (free : options.bindingOverride = none) :
    negotiateAgentInterface urls card options = .ok chosen ↔
      Chosen urls card options (askedBindings options) chosen := by
  have asked : askedBindings options =
      (preferences options).filter isLocallySupportedBinding := by
    simp [askedBindings, free]
  rw [asked]
  simp only [negotiateAgentInterface, normalizedPreferences_valid valid, free, bind, Except.bind]
  by_cases empty : ((preferences options).filter isLocallySupportedBinding).isEmpty = true
  · rw [if_pos empty, List.isEmpty_iff.mp empty]
    exact iff_of_false nofun chosen_nil
  · rw [if_neg empty]
    exact settle_chosen

theorem negotiate_chosen (valid : ValidNames options) :
    negotiateAgentInterface urls card options = .ok chosen ↔
      Chosen urls card options (askedBindings options) chosen := by
  cases requested : options.bindingOverride with
  | some value => exact override_chosen valid requested
  | none => exact preferred_chosen valid requested

theorem stuck_iff : Stuck urls card options bindings ↔
    ∀ chosen, ¬Chosen urls card options bindings chosen := by
  constructor
  · intro stuck chosen chose
    cases chose with
    | advertised wanted first =>
        cases stuck with
        | unmatched _ apart => exact apart _ wanted.mem wanted.sound
        | unoffered silent => exact nomatch silent ▸ first.mem
        | improper silent => exact nomatch silent ▸ first.mem
    | fallback silent wanted offered absolute =>
        cases stuck with
        | unmatched advertising => exact advertising silent
        | unoffered _ bare => exact bare _ wanted.mem wanted.sound
        | improper _ again offered' relative =>
            cases wanted.unique again
            cases fallback_unique offered offered'
            exact relative absolute
  · intro free
    by_cases silent : card.supportedInterfaces = []
    · by_cases offering : ∃ binding ∈ bindings, HasFallback options binding
      · obtain ⟨_, member, held⟩ := offering
        obtain ⟨binding, wanted⟩ := first_of_mem member held
        obtain ⟨interface, offered⟩ := wanted.sound
        exact .improper silent wanted offered fun absolute =>
          free interface (.fallback silent wanted offered absolute)
      · exact .unoffered silent fun binding member held => offering ⟨binding, member, held⟩
    · refine .unmatched silent fun _ member listed => ?_
      obtain ⟨binding, wanted⟩ := first_of_mem member listed
      obtain ⟨_, advertised, named⟩ := wanted.sound
      have listed : ∃ interface, First (fun interface : AgentInterface =>
          canonicalProtocolBinding interface.protocolBinding = binding)
          card.supportedInterfaces interface := first_of_mem advertised named
      obtain ⟨interface, first⟩ := listed
      exact free _ (.advertised wanted first)

theorem chosen_binding (chose : Chosen urls card options bindings chosen) :
    chosen.binding ∈ bindings := by
  cases chose with
  | advertised wanted first =>
      rw [interfaceFromAgentCard, first.sound]
      exact wanted.mem
  | fallback _ wanted offered _ =>
      cases offered with
      | registry => exact wanted.mem
      | baseUrl => exact wanted.mem

end Negotiation

theorem negotiation_exact (urls : Urls) (card : AgentCard) (options : InterfaceNegotiationOptions)
    (valid : ValidNames options) :
    (∀ chosen, negotiateAgentInterface urls card options = .ok chosen ↔
      Chosen urls card options (askedBindings options) chosen) ∧
    ((∃ error, negotiateAgentInterface urls card options = .error error) ↔
      Stuck urls card options (askedBindings options)) ∧
    ∀ chosen, negotiateAgentInterface urls card options = .ok chosen →
      isLocallySupportedBinding chosen.binding = true ∧
      ∀ value, options.bindingOverride = some value →
        chosen.binding = canonicalProtocolBinding value := by
  refine ⟨fun chosen => negotiate_chosen valid, ?_, ?_⟩
  · have chosen_iff (chosen : NegotiatedInterface) :
        Chosen urls card options (askedBindings options) chosen ↔
          negotiateAgentInterface urls card options = .ok chosen := (negotiate_chosen valid).symm
    rw [stuck_iff]
    simp only [chosen_iff]
    cases negotiateAgentInterface urls card options with
    | error error => simp
    | ok chosen => simp
  · intro chosen returned
    have asked := chosen_binding ((negotiate_chosen valid).mp returned)
    rw [askedBindings, List.mem_filter] at asked
    refine ⟨asked.2, ?_⟩
    intro value requested
    simpa [requested] using asked.1

def localUrls : Urls where
  Url := String
  parse value := if value = "http://127.0.0.1:8080" then some "127.0.0.1" else none
  hostStr := some

def legacyOptions : InterfaceNegotiationOptions where
  preferredBindings := [" JSON_RPC ", "HTTP+JSON", "jsonrpc"]
  bindingOverride := none
  fallbackInterfaceUrls := []
  fallbackBaseUrl := some "http://127.0.0.1:8080"

theorem legacy_negotiated : negotiateAgentInterface localUrls ⟨[]⟩ legacyOptions =
    .ok (fallbackInterface "http+json" "http://127.0.0.1:8080" .baseUrlFallback) := by
  have valid : ValidNames legacyOptions := by
    refine ⟨?_, nofun⟩
    intro value member
    have listed : value = " JSON_RPC " ∨ value = "HTTP+JSON" ∨ value = "jsonrpc" := by
      simpa [legacyOptions] using member
    rcases listed with rfl | rfl | rfl
    all_goals exact ⟨by decide, List.all_eq_true.mp (by decide)⟩
  have offered : Fallback legacyOptions "http+json"
      (fallbackInterface "http+json" "http://127.0.0.1:8080" .baseUrlFallback) :=
    .baseUrl nofun rfl rfl
  have bare : ¬HasFallback legacyOptions "json-rpc" := by
    rintro ⟨_, fallback⟩
    cases fallback with
    | registry first => exact not_first_nil _ first
    | baseUrl _ http => exact absurd http (by decide)
  have wanted : First (HasFallback legacyOptions) (askedBindings legacyOptions) "http+json" := by
    refine ⟨["json-rpc"], [], by decide, ⟨_, offered⟩, ?_⟩
    intro earlier member
    rw [List.mem_singleton.mp member]
    exact bare
  exact ((negotiation_exact localUrls ⟨[]⟩ legacyOptions valid).1 _).mpr
    (.fallback rfl wanted offered ⟨"127.0.0.1", rfl, rfl⟩)

/-! Registered agents. Their names for bindings are valid, so a negotiation for one of them never
fails over a name. -/

section Registered

theorem binding_codes {c : Char} (plain : isBindingCharacter c = true) :
    (0x61 ≤ c.toNat ∧ c.toNat ≤ 0x7A) ∨ (0x30 ≤ c.toNat ∧ c.toNat ≤ 0x39) ∨ c = '+' ∨ c = '-' ∨
      c = '_' ∨ c = '.' := by
  simpa [isBindingCharacter, isAsciiLowercase, isAsciiDigit, or_assoc] using plain

theorem binding_visible {c : Char} (plain : isBindingCharacter c = true) :
    isWhitespace c = false ∧ toAsciiLowercase c = c := by
  rcases binding_codes plain with letter | digit | rfl | rfl | rfl | rfl
  · have upper : isAsciiUppercase c = false := by
      simp only [isAsciiUppercase, Bool.and_eq_false_iff, decide_eq_false_iff_not]
      omega
    refine ⟨alphanumeric_not_whitespace c ?_, by simp [toAsciiLowercase, upper]⟩
    simp [isAsciiAlphanumeric, isAsciiLowercase, letter]
  · have upper : isAsciiUppercase c = false := by
      simp only [isAsciiUppercase, Bool.and_eq_false_iff, decide_eq_false_iff_not]
      omega
    refine ⟨alphanumeric_not_whitespace c ?_, by simp [toAsciiLowercase, upper]⟩
    simp [isAsciiAlphanumeric, isAsciiDigit, digit]
  all_goals decide

theorem folded_kept {value : String} (plain : ∀ c ∈ value.toList, isBindingCharacter c = true) :
    lowercase (trim value.toList) = value.toList := by
  have kept : trim value.toList = value.toList :=
    trim_solid fun c member => (binding_visible (plain c member)).1
  rw [kept, lowercase]
  exact List.map_congr_left (fun c member => (binding_visible (plain c member)).2) |>.trans
    (List.map_id _)

theorem plain_valid {value : String} (filled : value ≠ "")
    (plain : ∀ c ∈ value.toList, isBindingCharacter c = true) : ValidName value := by
  have canonical : canonicalProtocolBinding value = httpJsonBinding ∨
      canonicalProtocolBinding value = jsonRpcBinding ∨
      canonicalProtocolBinding value = grpcBinding ∨ canonicalProtocolBinding value = value := by
    simp only [canonicalProtocolBinding, folded_kept plain, String.ofList_toList]
    split_ifs <;> simp
  rcases canonical with same | same | same | same
  · exact ⟨by rw [same]; decide, by rw [same]; exact List.all_eq_true.mp (by decide)⟩
  · exact ⟨by rw [same]; decide, by rw [same]; exact List.all_eq_true.mp (by decide)⟩
  · exact ⟨by rw [same]; decide, by rw [same]; exact List.all_eq_true.mp (by decide)⟩
  · exact ⟨by rw [same]; exact filled, by rw [same]; exact plain⟩

theorem transportName_valid (name : TransportName) : ValidName name.text := by
  have shaped : shapeReason name.text 64 "lowercase ASCII letters, digits, '+', '-', '_' or '.'"
    isTransportSeparator = none := name.valid
  unfold shapeReason at shaped
  split_ifs at shaped with empty _ _ _ named
  apply plain_valid (by simpa using empty)
  intro c member
  have kept := List.all_eq_true.mp named c member
  simpa [isBindingCharacter, isLowerAlphanumeric, isTransportSeparator, isNamedSeparator,
    or_assoc] using kept

theorem negotiationOptions_valid (agent : AgentRecord) : ValidNames (negotiationOptions agent) where
  preferred := by
    intro value member
    obtain ⟨name, _, rfl⟩ := List.mem_map.mp member
    exact transportName_valid name
  requested := nofun

theorem registered_negotiation (urls : Urls) (card : AgentCard) (agent : AgentRecord)
    (chosen : NegotiatedInterface) :
    negotiateAgentInterface urls card (negotiationOptions agent) = .ok chosen ↔
      Chosen urls card (negotiationOptions agent) (askedBindings (negotiationOptions agent))
        chosen :=
  negotiate_chosen (negotiationOptions_valid agent)

end Registered

end Missive.InterfaceNegotiation
