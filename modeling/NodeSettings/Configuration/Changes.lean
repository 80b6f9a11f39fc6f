import NodeSettings.Configuration.Selection

/-!
What differs between a configuration and an earlier one, and which containers must restart.
-/

namespace NodeSettings

/-- A setting whose text differs. -/
structure Change where
  name : String
  before : String
  after : String
  /-- The containers to restart, in order. -/
  restarts : List Container
deriving DecidableEq

/-- What differs between two configurations. -/
structure Changes where
  /-- The changed settings of each group that has any, in display order. -/
  groups : List (Group × List Change)
  /-- Every container to restart, in order. -/
  restarts : List Container
  networkChanged : Bool
deriving DecidableEq

namespace Changes

def count (changes : Changes) : Nat := (changes.groups.flatMap (·.2)).length

/-- The changed settings under the titles of their groups. -/
def byTitle (changes : Changes) : Table (List Change) :=
  .ofList (changes.groups.map fun entry => (entry.1.title, entry.2))

def isEmpty (changes : Changes) : Bool := changes.groups.isEmpty && !changes.networkChanged

end Changes

namespace Configuration

/-- The containers to restart in place of the declared ones. -/
def redirect (redirects : List Redirect) (containers : List Container) : List Container :=
  Container.inOrder (containers.map fun c =>
    ((redirects.find? (·.source = c)).map (·.target)).getD c)

/-- The changed settings of a group. -/
def changesIn (c old : Configuration) (group : Group) : List Change :=
  (c.parameters group).filterMap fun p =>
    let before := old.text group p.id
    if before = p.text then none
    else some ⟨p.name, before, p.text, redirect c.redirects p.affects⟩

/-- What differs from an earlier configuration. Restarts are redirected as the later one has it. -/
def changesSince (c old : Configuration) : Changes :=
  let groups := (Group.all.map fun g => (g, c.changesIn old g)).filter fun entry =>
    !entry.2.isEmpty
  let chosen (d : Configuration) := d.value? .smartnode "network"
  { groups
    restarts := Container.inOrder (groups.flatMap fun entry => entry.2.flatMap (·.restarts))
    networkChanged := chosen c != chosen old }

end Configuration
end NodeSettings
