import Missive.BroadcastJournal
import Missive.EventReplay
import Missive.GroupRename
import Missive.SecretAssignments
import Missive.SeededAuth

/-! The journal of the group commands. The events that a run appends tell its changes of the group
directory, redacted as they are: whoever applies them again to the directory they started from has
the directory they ended in. -/
namespace Missive.GroupJournal

open JsonValue KeyedTable Missive.Core Schema Effects Repository Groups Memberships GroupDirectory
open GroupRuns Frames TextRedaction
open RustText (Text isWhitespace)
open AgentRename (appendAgentEvent renameAgent)
open CardCaching (Edit removeAgent agentViewJson)

/-! Texts that the redactor leaves alone. -/

def Quiet (text : Text) : Prop := ∀ c ∈ text, isCredentialEnd c = false ∧ isSeparator c = false

theorem quiet_tail {c : Char} {text : Text} (quiet : Quiet (c :: text)) : Quiet text :=
  fun d member => quiet d (List.mem_cons_of_mem c member)

theorem auth_scheme_quiet {text : Text} (quiet : Quiet text) (scheme : Text) :
    redactAfterAuthScheme text scheme = text := by
  have missing := AuthCredentials.needle_not_in_word scheme text fun c member => (quiet c member).1
  rw [redactAfterAuthScheme]
  split
  · rfl
  · rename_i found
    rw [RustText.findAsciiCaseInsensitive, missing] at found
    cases found

theorem auth_schemes_quiet {text : Text} (quiet : Quiet text) (schemes : List Text) :
    redactAuthSchemes schemes text = text := by
  induction schemes with
  | nil => rfl
  | cons scheme rest ih =>
      rw [redactAuthSchemes, List.foldl_cons, auth_scheme_quiet quiet]
      exact ih

-- A key is redacted only where a separator follows it.
theorem assignment_quiet (secret : Text → Bool) (previous : Option Char) {text : Text}
    (quiet : Quiet text) : assignmentAt secret previous text = none := by
  have silent (read : Nat) : (text.drop read).head?.any isSeparator = false := by
    cases left : text.drop read with
    | nil => rfl
    | cons c rest =>
        have member : c ∈ text := List.mem_of_mem_drop (left ▸ List.mem_cons_self)
        exact (quiet c member).2
  unfold assignmentAt
  cases secretKeyEndAt secret previous text with
  | none => rfl
  | some keyEnd => simp only [Option.bind_some, silent, Bool.false_eq_true, if_false]

theorem assignments_quiet (secret : Text → Bool) (skip : Text → Nat) (previous : Option Char)
    {text : Text} (quiet : Quiet text) :
    redactSecretAssignmentsFrom secret skip previous text = text := by
  induction text generalizing previous with
  | nil => rw [redactSecretAssignmentsFrom]
  | cons c rest ih =>
      rw [SecretAssignments.from_turn, assignment_quiet secret previous quiet]
      exact congrArg (c :: ·) (ih (some c) (quiet_tail quiet))

theorem output_quiet {text : Text} (quiet : Quiet text) : outputRedactText text = text := by
  rw [outputRedactText, auth_schemes_quiet quiet]
  exact assignments_quiet _ _ none quiet

theorem named_quiet {value allowed : String}
    (valid : shapeReason value 63 allowed isNamedSeparator = none) : Quiet value.toList := by
  intro c member
  rw [shapeReason] at valid
  split_ifs at valid with empty long first last shaped
  have kept := List.all_eq_true.mp shaped c member
  have solid := SeededAuth.named_solid kept
  constructor
  · have comma : c ≠ ',' := by
      rintro rfl
      exact absurd kept (by decide)
    have semicolon : c ≠ ';' := by
      rintro rfl
      exact absurd kept (by decide)
    simp [isCredentialEnd, solid.1, comma, semicolon]
  · have equals : c ≠ '=' := by
      rintro rfl
      exact absurd kept (by decide)
    have colon : c ≠ ':' := by
      rintro rfl
      exact absurd kept (by decide)
    simp [isSeparator, equals, colon]

theorem shown_quiet {value : String} (quiet : Quiet value.toList) :
    shown (.string value) = .string value := by
  change Json.string (String.ofList (outputRedactText value.toList)) = .string value
  rw [output_quiet quiet, String.ofList_toList]

@[simp] theorem shown_groupName (name : GroupName) :
    shown (.string name.text) = .string name.text :=
  shown_quiet (named_quiet name.valid)

@[simp] theorem shown_agentAlias (name : AgentAlias) :
    shown (.string name.text) = .string name.text := shown_quiet (named_quiet name.valid)

@[simp] theorem shown_rankName (name : RankName) : shown (.string name.text) = .string name.text :=
  shown_quiet (named_quiet name.valid)

/-! Reading a change from an event. -/

def nameAt (kind : IdKind) (payload : Json) (key : String) : Option (Id kind) :=
  ((payload.get key).bind Json.asStr).bind fun text => (Id.new kind text).toOption

def entryAt (payload : Json) : Option GroupEntry := do
  let routingPolicy ← payload.get "routing_policy"
  let notes ← payload.get "notes"
  let metadata ← payload.get "metadata"
  some ⟨routingPolicy, notes, metadata⟩

def memberAt (payload : Json) : Option MemberEntry := do
  let rank ← (payload.get "rank").bind Json.asStr
  let tags ← payload.get "tags"
  let weight ← payload.get "weight"
  let routingMetadata ← payload.get "routing_metadata"
  some ⟨rank, tags, weight, routingMetadata⟩

def readChange (eventType : String) (payload : Json) : Option GroupChange :=
  match eventType with
  | "missive.group.create" => do
      some (.create (← nameAt .groupName payload "group") (← entryAt payload))
  | "missive.group.member.add" => do
      some (.enroll (← nameAt .groupName payload "group") (← nameAt .agentAlias payload "agent")
        (← memberAt payload))
  | "missive.group.member.remove" => do
      some (.dismiss (← nameAt .groupName payload "group") (← nameAt .agentAlias payload "agent"))
  | "missive.group.rename" => do
      some (.rename (← nameAt .groupName payload "previous_name")
        (← nameAt .groupName payload "group"))
  | "missive.group.delete" => (nameAt .groupName payload "group").map .delete
  | "missive.agent.remove" => (nameAt .agentAlias payload "alias").map .forget
  | "missive.agent.rename" => (nameAt .agentAlias payload "previous_alias").map .forget
  | _ => none

section Readings

variable (payload : Json)

@[simp] theorem readChange_create : readChange "missive.group.create" payload = (do
    some (.create (← nameAt .groupName payload "group") (← entryAt payload))) := rfl

@[simp] theorem readChange_add : readChange "missive.group.member.add" payload = (do
    some (.enroll (← nameAt .groupName payload "group") (← nameAt .agentAlias payload "agent")
      (← memberAt payload))) := rfl

@[simp] theorem readChange_remove : readChange "missive.group.member.remove" payload = (do
    some (.dismiss (← nameAt .groupName payload "group")
      (← nameAt .agentAlias payload "agent"))) := rfl

@[simp] theorem readChange_rename : readChange "missive.group.rename" payload = (do
    some (.rename (← nameAt .groupName payload "previous_name")
      (← nameAt .groupName payload "group"))) := rfl

@[simp] theorem readChange_delete : readChange "missive.group.delete" payload =
    (nameAt .groupName payload "group").map .delete := rfl

@[simp] theorem readChange_removeAgent : readChange "missive.agent.remove" payload =
    (nameAt .agentAlias payload "alias").map .forget := rfl

@[simp] theorem readChange_renameAgent : readChange "missive.agent.rename" payload =
    (nameAt .agentAlias payload "previous_alias").map .forget := rfl

end Readings

def readKeys : List String :=
  ["agent", "alias", "group", "metadata", "notes", "previous_alias", "previous_name", "rank",
    "routing_metadata", "routing_policy", "tags", "weight"]

theorem shown_transparent :
    EventReplay.Transparent readKeys EventReplay.outputShown JsonRedaction.outputRedactJson :=
  EventReplay.deep_transparent (by decide)

theorem shown_get {key : String} (listed : key ∈ readKeys) (fields : List (String × Json)) :
    (shown (.object fields)).get key = (fields.lookup key).map shown :=
  shown_transparent.get key listed (.object fields)

@[simp] theorem nameAt_shown {kind : IdKind} {key : String} (listed : key ∈ readKeys)
    {fields : List (String × Json)} {name : Id kind}
    (found : (fields.lookup key).map shown = some (.string name.text)) :
    nameAt kind (shown (.object fields)) key = some name := by
  simp [nameAt, shown_get listed, found, Json.asStr, Except.toOption]

theorem create_read (record : GroupRecord) :
    readChange "missive.group.create" (shown (createPayload record)) =
      some (.create record.groupName (groupEntry record)) := by
  have named : nameAt .groupName (shown (createPayload record)) "group" = some record.groupName :=
    nameAt_shown (by decide) (by simp)
  have entered : entryAt (shown (createPayload record)) = some (groupEntry record) := by
    rw [entryAt, createPayload, shown_get (by decide), shown_get (by decide),
      shown_get (by decide)]
    rfl
  simp [named, entered]

theorem add_read (groupName : GroupName) (agentAlias : AgentAlias) (member : GroupMemberRecord) :
    readChange "missive.group.member.add" (shown (addPayload groupName agentAlias member)) =
      some (.enroll groupName agentAlias (memberEntry member)) := by
  have named : nameAt .groupName (shown (addPayload groupName agentAlias member)) "group" =
      some groupName := nameAt_shown (by decide) (by simp [List.lookup_cons])
  have owned : nameAt .agentAlias (shown (addPayload groupName agentAlias member)) "agent" =
      some agentAlias := nameAt_shown (by decide) (by simp)
  have entered : memberAt (shown (addPayload groupName agentAlias member)) =
      some (memberEntry member) := by
    rw [memberAt, addPayload, shown_get (by decide), shown_get (by decide), shown_get (by decide),
      shown_get (by decide)]
    simp [List.lookup_cons, Json.asStr]
    rfl
  simp [named, owned, entered]

/-- The event of a change tells the change. -/
theorem notes_read {change : GroupChange} {note : Note} (notes : Notes change note) :
    readChange note.eventType (shown note.payload) = some change := by
  cases notes with
  | create record => exact create_read record
  | enroll member => exact add_read _ _ member
  | dismiss groupName agentAlias view =>
      have named : nameAt .groupName (shown (removePayload groupName agentAlias view)) "group" =
          some groupName := nameAt_shown (by decide) (by simp [List.lookup_cons])
      have owned : nameAt .agentAlias (shown (removePayload groupName agentAlias view)) "agent" =
          some agentAlias := nameAt_shown (by decide) (by simp)
      simp [named, owned]
  | rename old new =>
      have front : nameAt .groupName (shown (renamePayload old new)) "previous_name" = some old :=
        nameAt_shown (by decide) (by simp [List.lookup_cons])
      have back : nameAt .groupName (shown (renamePayload old new)) "group" = some new :=
        nameAt_shown (by decide) (by simp)
      simp [front, back]
  | delete name view =>
      have named : nameAt .groupName (shown (deletePayload name view)) "group" = some name :=
        nameAt_shown (by decide) (by simp [List.lookup_cons])
      simp [named]

/-! The changes that a journal tells. -/

def changesOf (store : Store) : List GroupChange :=
  store.events.rows.filterMap fun row => readChange row.eventType row.payloadJson

theorem changesOf_withEvent (store : Store) (input : EventInsert) (time : MilliTime) :
    changesOf (withEvent store input time) =
      changesOf store ++ (readChange input.eventType input.payloadJson).toList := by
  rw [changesOf, withEvent_rows, List.filterMap_append]
  cases told : readChange input.eventType input.payloadJson with
  | none => simp [EventInsert.toRecord, told, changesOf]
  | some change => simp [EventInsert.toRecord, told, changesOf]

-- What the changes say depends on the types and the payloads of the events alone.
theorem changesOf_same {before after : Store}
    (journal : after.events.rows.map (fun row => (row.eventType, row.payloadJson)) =
      before.events.rows.map fun row => (row.eventType, row.payloadJson)) :
    changesOf after = changesOf before := by
  have mapped (store : Store) : changesOf store =
      (store.events.rows.map fun row => (row.eventType, row.payloadJson)).filterMap
        fun entry => readChange entry.1 entry.2 := by
    rw [List.filterMap_map]
    rfl
  rw [mapped, mapped, journal]

/-- The journal has grown by the changes that lead from one directory to the other. -/
def Told (before after : Store) : Prop :=
  ∃ changes, changesOf after = changesOf before ++ changes ∧
    directoryOf after = Directory.replay changes (directoryOf before)

theorem told_same {before after : Store} (directory : directoryOf after = directoryOf before)
    (journal : changesOf after = changesOf before) : Told before after :=
  ⟨[], by simpa using journal, directory⟩

theorem told_trans {first middle last : Store} (before : Told first middle)
    (after : Told middle last) : Told first last := by
  rcases before with ⟨early, grown, moved⟩
  rcases after with ⟨late, grownAgain, movedAgain⟩
  refine ⟨early ++ late, ?_, ?_⟩
  · rw [grownAgain, grown, List.append_assoc]
  · rw [movedAgain, moved, Directory.replay, Directory.replay, Directory.replay, List.foldl_append]

theorem told_change {before middle : Store} {change : GroupChange} {event : EventInsert}
    {time : MilliTime} (directory : directoryOf middle = (directoryOf before).apply change)
    (journal : changesOf middle = changesOf before)
    (read : readChange event.eventType event.payloadJson = some change) :
    Told before (withEvent middle event time) := by
  refine ⟨[change], ?_, directory⟩
  rw [changesOf_withEvent, journal, read]
  rfl

section Actions

variable {Result : Type} {world after : World} {asks : GroupChange → Prop}
  {action : Action Result} {result : Result}

/-- A group command that returned has journaled its change. -/
theorem turns_told (turns : Turns asks action world) (ran : action world = (.ok result, after)) :
    Told world.store after.store := by
  rcases turns with ⟨error, refused, -⟩ | ⟨note, written, change, -, writes, view, goes⟩
  · rw [refused] at ran
    cases ran
  · rw [goes] at ran
    obtain ⟨_, journaled, appended, shown⟩ := Effect.bind_returned ran
    cases shown
    obtain ⟨event, time, typed, -, paid, stored⟩ :=
      GroupRename.appendGroupEvent_returned appended
    rw [stored]
    apply told_change writes.changed (changesOf_same writes.journal)
    rw [typed, paid]
    exact notes_read writes.notes

theorem turns_sound (sound : (directoryOf world.store).Sound MemberEntry.rank)
    (turns : Turns asks action world) :
    (directoryOf (action world).2.store).Sound MemberEntry.rank := by
  rcases turns_obeys turns with ⟨error, refused, -⟩ | ⟨change, -, allowed, moved⟩
  · rwa [refused]
  · rw [moved]
    exact Directory.sound_apply sound change allowed

/-! Agents that leave. -/

theorem appendAgentEvent_paid {eventType : String} {name : Option AgentAlias} {payload : Json}
    (ran : appendAgentEvent eventType name payload world = (.ok (), after)) :
    ∃ event time, event.eventType = eventType ∧ event.payloadJson = shown payload ∧
      after.store = withEvent world.store event time := by
  obtain ⟨event, middle, made, rest⟩ := Effect.bind_returned ran
  obtain ⟨_, last, appended, finished⟩ := Effect.bind_returned rest
  cases finished
  have typed := AgentRename.newCliEvent_returned made
  have paid := GroupRename.newCliEvent_paid made
  rw [← typed.2]
  exact ⟨{ event with agentAlias := name }, _, typed.1, paid, appendEvent_returned appended⟩

-- The agent's row may have been written again before it was deleted.
theorem forgotten_told {before written : Store} {name : AgentAlias} {event : EventInsert}
    {time : MilliTime} (groups : written.groups = before.groups)
    (members : written.groupMembers = before.groupMembers) (events : written.events = before.events)
    (read : readChange event.eventType event.payloadJson = some (.forget name)) :
    Told before (withEvent (withoutAgent written name) event time) := by
  have directory : directoryOf written = directoryOf before := by
    simp only [directoryOf, groups, members]
  refine told_change (directory ▸ directoryOf_forget name) ?_ read
  apply changesOf_same
  rw [← events]
  exact List.map_map

theorem removeAgent_told {aliasText : String}
    (ran : removeAgent aliasText world = (.ok (), after)) : Told world.store after.store := by
  obtain ⟨name, _, parsed⟩ := Effect.lift_bind_returned ran
  obtain ⟨record, _, looked, found⟩ := Effect.bind_returned parsed
  obtain ⟨-, rfl⟩ := getExistingAgent_returned looked
  obtain ⟨_, _, allowed⟩ := Effect.lift_bind_returned found
  obtain ⟨deleted, middle, removed, rest⟩ := Effect.bind_returned allowed
  cases deleted with
  | false => cases rest
  | true =>
      obtain ⟨event, time, typed, paid, stored⟩ := appendAgentEvent_paid rest
      rw [stored, (AgentRename.deleteAgent_returned removed).2]
      apply forgotten_told rfl rfl rfl
      have named : nameAt .agentAlias (shown (.object [("alias", .string name.text),
          ("removed_agent", agentViewJson record)])) "alias" = some name :=
        nameAt_shown (by decide) (by simp)
      rw [typed, paid]
      simp [named]

theorem renameAgent_told {aliasText newAliasText : String} {record : AgentRecord}
    (ran : renameAgent aliasText newAliasText world = (.ok record, after)) :
    Told world.store after.store := by
  obtain ⟨old, _, parsed⟩ := Effect.lift_bind_returned ran
  obtain ⟨new, _, both⟩ := Effect.lift_bind_returned parsed
  obtain ⟨_, _, compared⟩ := Effect.lift_bind_returned both
  obtain ⟨oldRecord, _, looked, found⟩ := Effect.bind_returned compared
  obtain ⟨-, rfl⟩ := getExistingAgent_returned looked
  obtain ⟨_, writable, allowed⟩ := Effect.lift_bind_returned found
  obtain ⟨_, _, sought, ready⟩ := Effect.bind_returned allowed
  obtain ⟨absent, rfl⟩ := AgentRename.ensureAgentAbsent_returned sought
  obtain ⟨written, moved, replaced, rest⟩ := Effect.bind_returned ready
  obtain ⟨_, last, appended, finished⟩ := Effect.bind_returned rest
  cases finished
  have stores := (AgentRename.replaceAgent_returned absent
    (AgentRename.ensureWritable_passed writable) (Effect.transaction_returned replaced)).2.2
  obtain ⟨event, time, typed, paid, stored⟩ := appendAgentEvent_paid appended
  rw [stored, stores]
  refine forgotten_told ?_ ?_ ?_ ?_
  · rfl
  · rfl
  · rfl
  · have named : nameAt .agentAlias (shown (AgentRename.renamePayload old record))
        "previous_alias" = some old := nameAt_shown (by decide) (by simp [List.lookup_cons])
    rw [typed, paid]
    simp [named]

/-! Edits that leave the directory alone. -/

def directoryPart (store : Store) :
    Table GroupRecord × Table GroupMemberRecord × List GroupChange :=
  (store.groups, store.groupMembers, changesOf store)

theorem told_kept {keeping : Action Result} (keeps : Keeps directoryPart keeping)
    (ran : keeping world = (.ok result, after)) : Told world.store after.store := by
  have same := keeps.returned ran
  simp only [directoryPart, Prod.mk.injEq] at same
  exact told_same (by simp only [directoryOf, same.1, same.2.1]) same.2.2

theorem keeps_upsertAgent (input : AgentUpsert) : Keeps directoryPart (upsertAgent input) :=
  keeps_upsertRow (fun _ _ => rfl) fun _ _ => rfl

theorem keeps_untold {input : EventInsert}
    (untold : readChange input.eventType input.payloadJson = none) :
    Keeps directoryPart (appendEvent input) := by
  intro world
  rcases appendEvent_cases input world with ⟨error, after, failed, same⟩ | ⟨_, appended⟩
  · rw [failed]
    exact congrArg directoryPart same
  · rw [appended]
    change (_, _, changesOf (withEvent _ _ _)) = directoryPart world.store
    rw [changesOf_withEvent, untold, Option.toList_none, List.append_nil]
    rfl

theorem keeps_discard {keeping : Action Result} (keeps : Keeps directoryPart keeping) :
    Keeps directoryPart (CardCaching.discard keeping) := keeps_bind keeps fun _ => keeps_pure ()

theorem discard_returned {body : Action Result}
    (ran : CardCaching.discard body world = (.ok (), after)) :
    ∃ result, body world = (.ok result, after) := by
  obtain ⟨result, middle, returned, finished⟩ := Effect.bind_returned ran
  cases finished
  exact ⟨result, returned⟩

/-- An agent edit that returned has journaled what it did to the groups. -/
theorem edit_told {edit : Edit} (ran : edit.run world = (.ok (), after)) :
    Told world.store after.store := by
  cases edit with
  | seedAuthRef name authRef =>
      apply told_kept _ ran
      exact keeps_discard (keeps_upsertRow (fun _ _ => rfl) fun _ _ => rfl)
  | seedAgent aliasText agent =>
      apply told_kept _ ran
      refine keeps_bind (keeps_lift _) fun seeded => ?_
      refine keeps_bind (keeps_readStore _) fun existing => ?_
      refine keeps_bind (keeps_lift _) fun input => ?_
      exact keeps_bind (keeps_upsertAgent input) fun _ => keeps_pure ()
  | add input =>
      apply told_kept _ ran
      refine keeps_discard (keeps_bind (keeps_agentAbsent _ _) fun _ => ?_)
      refine keeps_bind (keeps_upsertAgent input) fun record => ?_
      refine keeps_bind ?_ fun _ => keeps_pure record
      apply BroadcastJournal.keeps_cliEvent
      intro id json
      exact keeps_bind (keeps_untold rfl) fun _ => keeps_pure ()
  | remove aliasText => exact removeAgent_told ran
  | rename aliasText newAliasText =>
      obtain ⟨record, returned⟩ := discard_returned ran
      exact renameAgent_told returned
  | refresh aliasText rawCard validators fetchedAt =>
      apply told_kept _ ran
      refine keeps_discard (keeps_bind (keeps_lift _) fun name => ?_)
      exact keeps_bind (keeps_existingAgent _ _) fun record => keeps_upsertAgent _

end Actions

/-! Runs. -/

section Runs

variable (fromStr : String → Option Json) (display : UInt64 → String)

/-- A command that returned, or work that changes neither the directory nor what the journal tells
of it, such as a command that was refused. -/
inductive Step (before after : World) : Prop where
  | command (command : GroupCommand)
      (ran : command.run fromStr display before = (.ok (), after))
  | edit (edit : Edit) (ran : edit.run before = (.ok (), after))
  | other (directory : directoryOf after.store = directoryOf before.store)
      (journal : changesOf after.store = changesOf before.store)

abbrev Reached : World → World → Prop := Relation.ReflTransGen (Step fromStr display)

variable {fromStr display} {before after : World}

theorem edit_sound (sound : (directoryOf before.store).Sound MemberEntry.rank) (edit : Edit) :
    (directoryOf (edit.run before).2.store).Sound MemberEntry.rank := by
  have sheds := sheds_edit edit before
  apply Directory.sound_fewer sound
  · simp only [directoryOf, sheds.groups]
  · exact fun group agent member => members_fewer sheds

theorem step_sound (sound : (directoryOf before.store).Sound MemberEntry.rank)
    (step : Step fromStr display before after) :
    (directoryOf after.store).Sound MemberEntry.rank := by
  cases step with
  | command command ran =>
      have kept := turns_sound sound (command_turns fromStr display sound command)
      rwa [ran] at kept
  | edit edit ran =>
      have kept := edit_sound sound edit
      rwa [ran] at kept
  | other directory journal => rwa [directory]

theorem step_told (sound : (directoryOf before.store).Sound MemberEntry.rank)
    (step : Step fromStr display before after) : Told before.store after.store := by
  cases step with
  | command command ran => exact turns_told (command_turns fromStr display sound command) ran
  | edit edit ran => exact edit_told ran
  | other directory journal => exact told_same directory journal

theorem run_sound (sound : (directoryOf before.store).Sound MemberEntry.rank)
    (reached : Reached fromStr display before after) :
    (directoryOf after.store).Sound MemberEntry.rank := by
  induction reached with
  | refl => exact sound
  | tail _ step ih => exact step_sound ih step

theorem run_told (sound : (directoryOf before.store).Sound MemberEntry.rank)
    (reached : Reached fromStr display before after) : Told before.store after.store := by
  induction reached with
  | refl => exact told_same rfl rfl
  | tail walked step ih => exact told_trans ih (step_told (run_sound sound walked) step)

end Runs

def dayRenamed : GroupCommand := .rename ⟨nightShift.text, GroupRename.dayShift.text⟩

def dayWorld : World := (dayRenamed.run noJson plainWeight GroupRename.enrolledWorld).2

theorem run_ok {action : Action Unit} {world : World} (returned : (action world).1.toBool = true) :
    action world = (.ok (), (action world).2) := by
  cases ran : action world with
  | mk outcome after =>
      cases outcome with
      | error error =>
          rw [ran] at returned
          cases returned
      | ok _ => rfl

end Missive.GroupJournal
