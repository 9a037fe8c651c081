import Missive.FileDrop

/-! What a `file-drop` process does with names and files. It chooses a name that it has found free,
takes it by a rename or a write, and hands the file on by another rename. Between two files it holds
nothing. -/
namespace Missive.FileDropProtocol

open Programs Program Core StdioLoop FileDrop

-- The names found free and not taken yet, and the files taken and not handed on yet.
structure Hand where
  chosen : List Path
  own : List Path

def Hand.none : Hand := ⟨[], []⟩

section Moves

variable {Request : Type}

def Permits (hand : Hand) : Operation Request → Prop
  | .pathExists path => path.place ≠ .inbox ∧ path ∉ hand.chosen
  | .rename source destination =>
      destination ∈ hand.chosen ∧ (source ∈ hand.own ∨ source.place = .inbox)
  | .read path => path ∈ hand.own
  | .write path _ => path ∈ hand.chosen
  | .removeFile _ => False
  | _ => True

-- No rename and no read finds its file gone.
def Expects : (operation : Operation Request) → operation.Answer → Prop
  | .rename _ _, renamed => renamed = .ok ()
  | .read _, read => ∃ bytes, read = .ok bytes
  | _, _ => True

def Hand.renamed (hand : Hand) (source destination : Path) : Hand where
  chosen := hand.chosen.filter (· ≠ destination)
  own := if source ∈ hand.own then hand.own.filter (· ≠ source) else destination :: hand.own

def Hand.next (hand : Hand) : (operation : Operation Request) → operation.Answer → Hand
  | .pathExists path, taken => if taken then hand else { hand with chosen := path :: hand.chosen }
  | .rename source destination, .ok () => hand.renamed source destination
  | .write path _, _ => ⟨hand.chosen.filter (· ≠ path), path :: hand.own⟩
  | _, _ => hand

def handoff : Protocol (Operation Request) Operation.Answer Hand where
  permits := Permits
  expects _ := Expects
  next := Hand.next

end Moves

attribute [local simp] Hand.next

-- The process stopped because a file it went for was gone.
def Lost : Failure → Prop
  | .claiming _ _ _ => True
  | .reading _ cause => cause = .notFound
  | .archiving _ _ _ => True
  | .publishing _ _ _ => True
  | _ => False

/-! Names. -/

theorem splitLastDot_length {name before after : String}
    (split_ : splitLastDot name = some (before, after)) :
    before.length + after.length + 1 = name.length := by
  unfold splitLastDot at split_
  have whole := List.takeWhile_append_dropWhile (p := (· ≠ '.')) (l := name.toList.reverse)
  cases rest : name.toList.reverse.dropWhile (· ≠ '.') with
  | nil =>
      rw [rest] at split_
      cases split_
  | cons dot front =>
      rw [rest] at split_ whole
      cases split_
      have lengths := congrArg List.length whole
      simp only [List.length_append, List.length_cons, List.length_reverse,
        String.length_toList] at lengths
      simp only [String.length_ofList, List.length_reverse]
      omega

theorem numbered_length (desired : String) (index : Nat) :
    desired.length ≤ (numbered desired index).length := by
  unfold numbered extension fileStem
  cases parts : splitLastDot desired with
  | none =>
      simp only [String.length_append, toString]
      omega
  | some pair =>
      have lengths : pair.1.length + pair.2.length + 1 = desired.length := splitLastDot_length parts
      by_cases hidden : desired = ".." ∨ pair.1 = ""
      · simp only [hidden, if_true, String.length_append, toString]
        omega
      · have dot : ".".length = 1 := rfl
        simp only [hidden, if_false, String.length_append, toString, dot]
        omega

-- The names that `uniquePath` tries.
def Candidate (desired name : String) : Prop :=
  name = desired ∨ ∃ index, name = numbered desired index

theorem candidate_length {desired name : String} (candidate : Candidate desired name) :
    desired.length ≤ name.length := by
  rcases candidate with rfl | ⟨index, rfl⟩
  · exact le_refl _
  · exact numbered_length desired index

/-! The functions. -/

-- The program keeps to what its hand permits, and does not stop because a file is gone.
abbrev Obeys {Request Result : Type} (ends : Result → Hand → Prop)
    (program : Routine Request Result) (hand : Hand) : Prop :=
  Follows handoff ends (fun failure => ¬ Lost failure) program hand

section Functions

variable {Request : Type} (codec : Codec Request) (processId : Nat)

theorem firstFree_obeys {place : Place} {desired : String} {hand : Hand} (outer : place ≠ .inbox)
    (unused : ∀ name, Candidate desired name → ⟨place, name⟩ ∉ hand.chosen) (attempts index : Nat) :
    Obeys (fun path after => after = { hand with chosen := path :: hand.chosen } ∧
        path.place = place ∧ path ∉ hand.chosen)
      (firstFree place desired attempts index : Routine Request Path) hand := by
  induction attempts generalizing index with
  | zero => exact fun lost => lost
  | succ attempts ih =>
      apply follows_perform
      · exact ⟨outer, unused _ (.inr ⟨index, rfl⟩)⟩
      intro taken _
      cases taken with
      | true => exact ih (index + 1)
      | false => exact ⟨rfl, rfl, unused _ (.inr ⟨index, rfl⟩)⟩

theorem uniquePath_obeys {place : Place} {desired : String} {hand : Hand} (outer : place ≠ .inbox)
    (unused : ∀ name, Candidate desired name → ⟨place, name⟩ ∉ hand.chosen) :
    Obeys (fun path after => after = { hand with chosen := path :: hand.chosen } ∧
        path.place = place ∧ path ∉ hand.chosen)
      (uniquePath place desired : Routine Request Path) hand := by
  apply follows_perform
  · exact ⟨outer, unused desired (.inl rfl)⟩
  intro taken _
  cases taken with
  | true => exact firstFree_obeys outer unused uniqueAttempts 1
  | false => exact ⟨rfl, rfl, unused desired (.inl rfl)⟩

theorem nextUniqueSuffix_obeys (hand : Hand) :
    Obeys (fun _ after => after = hand)
      (nextUniqueSuffix processId : Routine Request String) hand :=
  follows_perform trivial fun _ _ => rfl

theorem claimReadyFile_obeys (name : String) :
    Obeys (fun claim after => after = ⟨[], [claim.claimPath]⟩ ∧ claim.claimPath.place = .processed)
      (claimReadyFile processId name : Routine Request FileDropClaim) Hand.none := by
  unfold claimReadyFile
  by_cases ready : isReadyFileName name = true
  · rw [if_pos ready]
    apply follows_bind (nextUniqueSuffix_obeys processId Hand.none)
    rintro suffix _ rfl
    apply follows_bind (uniquePath_obeys (by decide) fun _ _ => List.not_mem_nil)
    rintro claimPath _ ⟨rfl, place, _⟩
    apply follows_perform
    · exact ⟨List.mem_cons_self, .inr rfl⟩
    rintro _ rfl
    refine ⟨?_, place⟩
    simp [handoff, Hand.renamed, Hand.none]
  · rw [if_neg ready]
    exact fun lost => lost

theorem readToString_obeys {path : Path} {hand : Hand} (own : path ∈ hand.own) :
    Obeys (fun _ after => after = hand) (readToString path : Routine Request String) hand := by
  apply follows_perform own
  rintro _ ⟨bytes, rfl⟩
  dsimp only
  cases String.fromUTF8? bytes with
  | none => exact fun lost => nomatch lost
  | some content => exact rfl

theorem handleContent_obeys (content : String) (hand : Hand) :
    Obeys (fun _ after => after = hand) (handleContent codec content) hand := by
  unfold handleContent
  cases codec.fromJsonStr content with
  | error error => exact rfl
  | ok request => exact follows_perform trivial fun _ _ => rfl

theorem completeClaim_obeys {claim : FileDropClaim} {output : Path} {place : Place}
    (outer : place ≠ .inbox) (apart : output.place ≠ place) :
    Obeys (fun _ after => after = ⟨[output], []⟩)
      (completeClaim claim place : Routine Request Path) ⟨[output], [claim.claimPath]⟩ := by
  have elsewhere {name : String} : (⟨place, name⟩ : Path) ≠ output :=
    fun same => apart (congrArg Path.place same).symm
  apply follows_bind (uniquePath_obeys outer fun name _ => by simpa using elsewhere)
  rintro archived _ ⟨rfl, _, other⟩
  apply follows_perform
  · exact ⟨List.mem_cons_self, .inl List.mem_cons_self⟩
  rintro _ rfl
  have kept : output ≠ archived := fun same => other (List.mem_singleton.mpr same.symm)
  change _ = _
  simp [handoff, Hand.renamed, kept]

theorem outputPathForClaim_obeys (claim : FileDropClaim) (ok : Bool) (own : List Path) :
    Obeys (fun output after => after = ⟨[output], own⟩ ∧ output.place = .outbox)
      (outputPathForClaim claim ok : Routine Request Path) ⟨[], own⟩ := by
  apply follows_mono (uniquePath_obeys (by decide) fun _ _ => List.not_mem_nil)
  rintro output _ ⟨rfl, place, _⟩
  exact ⟨rfl, place⟩

-- A temporary name is longer than the name it is made from.
theorem tempOutputPath_obeys {output : Path} (outer : output.place ≠ .inbox) :
    Obeys (fun temp after => after = ⟨[temp, output], []⟩ ∧ temp ≠ output)
      (tempOutputPath processId output : Routine Request Path) ⟨[output], []⟩ := by
  apply follows_bind (nextUniqueSuffix_obeys processId ⟨[output], []⟩)
  rintro suffix _ rfl
  have longer (name : String) (candidate : Candidate s!".{output.name}.tmp-{suffix}" name) :
      (⟨output.place, name⟩ : Path) ∉ [output] := by
    intro member
    have same : name = output.name := congrArg Path.name (List.mem_singleton.mp member)
    have length := candidate_length candidate
    have dot : ".".length = 1 := rfl
    simp only [same, String.length_append, toString, dot] at length
    omega
  apply follows_mono (uniquePath_obeys outer longer)
  rintro temp _ ⟨rfl, _, other⟩
  exact ⟨rfl, fun same => other (List.mem_singleton.mpr same)⟩

theorem writeOutputAtomic_obeys {destination : Path} (output : FileDropOutputFile)
    (outer : destination.place ≠ .inbox) :
    Obeys (fun _ after => after = Hand.none)
      (writeOutputAtomic codec processId destination output) ⟨[destination], []⟩ := by
  apply follows_bind (tempOutputPath_obeys processId outer)
  rintro temp _ ⟨rfl, apart⟩
  apply follows_perform List.mem_cons_self
  intro _ _
  have held : (handoff : Protocol (Operation Request) Operation.Answer Hand).next
      ⟨[temp, destination], []⟩ (.write temp (codec.toVecPretty output)) () =
        ⟨[destination], [temp]⟩ := by
    simp [handoff, Ne.symm apart]
  rw [held]
  apply follows_perform
  · exact ⟨List.mem_cons_self, .inl List.mem_cons_self⟩
  rintro _ rfl
  change _ = _
  simp [handoff, Hand.renamed, Hand.none]

theorem archiveAndPublish_obeys {claim : FileDropClaim} (ok : Bool) {place : Place}
    (outer : place ≠ .inbox) (apart : place ≠ .outbox) (document : String → FileDropOutputFile) :
    Obeys (fun _ after => after = Hand.none)
      (archiveAndPublish codec processId claim ok place document) ⟨[], [claim.claimPath]⟩ := by
  apply follows_bind (outputPathForClaim_obeys claim ok [claim.claimPath])
  rintro output _ ⟨rfl, home⟩
  apply follows_bind (completeClaim_obeys outer (by rw [home]; exact apart.symm))
  rintro archived _ rfl
  apply follows_bind (writeOutputAtomic_obeys codec processId _ (by rw [home]; decide))
  rintro _ _ rfl
  exact rfl

theorem processFileDropFile_obeys (name : String) :
    Obeys (fun _ after => after = Hand.none) (processFileDropFile codec processId name)
      Hand.none := by
  apply follows_bind (claimReadyFile_obeys processId name)
  rintro claim _ ⟨rfl, _⟩
  apply follows_bind (readToString_obeys List.mem_cons_self)
  rintro content _ rfl
  apply follows_bind (handleContent_obeys codec content _)
  rintro handled _ rfl
  cases handled with
  | error error => exact archiveAndPublish_obeys codec processId false (by decide) (by decide) _
  | ok answered => exact archiveAndPublish_obeys codec processId true (by decide) (by decide) _

theorem processEach_obeys (names : List String) (batch : FileDropRunAccumulator) :
    Obeys (fun _ after => after = Hand.none) (processEach codec processId names batch)
      Hand.none := by
  induction names generalizing batch with
  | nil => exact rfl
  | cons name rest ih =>
      apply follows_bind (processFileDropFile_obeys codec processId name)
      rintro view _ rfl
      exact ih (batch.count view)

theorem processFileDropReadyFiles_obeys (remaining : Option Nat) :
    Obeys (fun _ after => after = Hand.none)
      (processFileDropReadyFiles codec processId remaining) Hand.none := by
  have listed : Obeys (fun _ after => after = Hand.none)
      (readyFiles : Routine Request (List String)) Hand.none :=
    follows_perform trivial fun _ _ => rfl
  apply follows_bind listed
  rintro ready _ rfl
  exact processEach_obeys codec processId _ _

theorem pollInbox_obeys (args : FileDropArgs) (polls : Nat) (done : FileDropRunAccumulator) :
    Obeys (fun _ after => after = Hand.none) (pollInbox codec processId args polls done)
      Hand.none := by
  induction polls generalizing done with
  | zero => exact rfl
  | succ polls ih =>
      simp only [pollInbox]
      split
      · exact rfl
      · apply follows_bind (processFileDropReadyFiles_obeys codec processId _)
        rintro batch _ rfl
        split
        · exact rfl
        · split
          · exact rfl
          · split
            · apply follows_perform trivial
              intro passed _
              cases passed with
              | true => exact rfl
              | false => exact ih _
            · exact ih _

theorem runFileDropAdapter_obeys (args : FileDropArgs) (polls : Nat) :
    Obeys (fun _ after => after = Hand.none) (runFileDropAdapter codec processId args polls)
      Hand.none := by
  unfold runFileDropAdapter
  split
  · exact fun lost => lost
  · exact pollInbox_obeys codec processId args (polls + 1) (.empty 0)

end Functions

end Missive.FileDropProtocol
