import Missive.LastMax
import Missive.Artifacts

/-! What the collective commands share: a group with its members, and the latest task
of a member in a context. -/
namespace Missive.Collectives

open KeyedTable Missive.Core Schema Effects Repository

def getGroup (name : GroupName) : Action (Option GroupRecord) :=
  readStore fun store => store.groups.find? name

-- `ORDER BY rank_name, agent_alias`
def listGroupMembers (store : Store) (name : GroupName) : List GroupMemberRecord :=
  (store.groupMembers.rows.filter fun member => member.groupName = name).mergeSort
    fun first last => toLex (first.rankName, first.agentAlias) ≤ toLex (last.rankName, last.agentAlias)

def memberTasks (store : Store) (agentAlias : AgentAlias) (contextId : ContextId) :
    List TaskRecord :=
  (store.tasks.rows.filter fun record => record.agentAlias = agentAlias).filter
    fun record => record.contextId = some contextId

-- The same text stands in `barrier`, `gather` and `reduce`.
def latestMemberTask (store : Store) (agentAlias : AgentAlias) (contextId : ContextId) :
    Option TaskRecord :=
  LastMax.maxByKey (fun record : TaskRecord => toLex (record.updatedAt.millis, record.taskId))
    (memberTasks store agentAlias contextId)

theorem mem_memberTasks {store : Store} {agentAlias : AgentAlias} {contextId : ContextId}
    {record : TaskRecord} :
    record ∈ memberTasks store agentAlias contextId ↔
      record ∈ store.tasks.rows ∧ record.agentAlias = agentAlias ∧
        record.contextId = some contextId := by
  simp only [memberTasks, List.mem_filter, decide_eq_true_eq, and_assoc]

theorem latestMemberTask_own {store : Store} {agentAlias : AgentAlias} {contextId : ContextId}
    {record : TaskRecord} (found : latestMemberTask store agentAlias contextId = some record) :
    store.tasks.find? record.taskId = some record ∧ record.agentAlias = agentAlias ∧
      record.contextId = some contextId := by
  obtain ⟨stored, owner, linked⟩ := mem_memberTasks.mp (LastMax.maxByKey_mem found)
  exact ⟨store.tasks.find?_self record stored, owner, linked⟩

/-! A group of one member. -/

theorem team_valid : IdKind.groupName.reason "team" = none := by decide
theorem rank_valid : IdKind.rankName.reason "rank-0" = none := by decide

def teamGroup : GroupRecord := ⟨⟨"team", team_valid⟩, "all", none, .new, ⟨0⟩, ⟨0⟩⟩

def echoMember : GroupMemberRecord :=
  ⟨teamGroup.groupName, Artifacts.echoAgent, ⟨"rank-0", rank_valid⟩, [], 1, .new, ⟨0⟩⟩

end Missive.Collectives
