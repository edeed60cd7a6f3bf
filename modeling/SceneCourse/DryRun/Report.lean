import SceneCourse.DryRun.Analysis

/-!
The report of a dry run as plain text. Sections without content are left out; every section but the
last is followed by an empty line.
-/

namespace SceneCourse.DryRun

/-- More unused nodes than this are not listed. -/
def listedNodes : Nat := 10

def joined (xs : List String) : String := ", ".intercalate xs

/-- The tags by how often they occur, the most frequent first. -/
def frequentTags (r : DryRun) : List (String × Nat) :=
  r.coverage.tagCounts.mergeSort fun a b => decide (b.2 ≤ a.2)

def complexityLines (c : Complexity) : List String :=
  ["## Complexity", s!"- Scenes: {c.scenes}", s!"- Nodes: {c.nodes}", s!"- Triggers: {c.triggers}",
    s!"- Actions: {c.actions}", s!"- Max Path Length: {c.longest}",
      s!"- Avg Path Length: {c.averageLength.text}",
    s!"- Branching Factor: {c.branching.text}", ""]

def coverageLines (c : Coverage) : List String :=
  let scenes := (percent c.reachedScenes c.scenes).fixed 1
  ["## Coverage", s!"- Scene Coverage: {scenes}% ({c.reachedScenes}/{c.scenes})",
    s!"- Node References: {c.referencedNodes}/{c.nodes}",
    s!"- Triggers with Conditions: {c.withConditions}/{c.triggers}",
    s!"- Triggers with Else: {c.withAlternative}/{c.triggers}", ""]

def tagLines (r : DryRun) : List String :=
  ["## Action Distribution"] ++ r.frequentTags.map (fun (tag, n) => s!"- {tag}: {n}") ++ [""]

/-- A line about a list, none if the list is empty. -/
def listLine (title : String) (xs : List String) (after : String := "") : List String :=
  if xs.isEmpty then [] else [title ++ joined xs ++ after]

def deadCodeLines (d : DeadCode) : List String :=
  if d.isEmpty then []
  else
    let more := if d.unusedNodes.length > listedNodes then "..." else ""
    ["## Dead Code Detected"] ++ listLine "- Unreachable Scenes: " d.unreachable ++
      listLine "- Unused Nodes: " (d.unusedNodes.take listedNodes) more ++
      listLine "- Dead Triggers: " (d.deadTriggers.map (·.shown)) ++ [""]

def unknownLines (targets : List String) : List String :=
  if targets.isEmpty then [] else ["## Unknown Scene Targets", "- " ++ joined targets, ""]

def mutationLines (ms : List Mutation) : List String :=
  if ms.isEmpty then []
  else ["## State Mutations"] ++ (tally (ms.map (·.path))).map
    (fun (path, n) => s!"- {path}: {n} mutations") ++ [""]

def walkLines (r : DryRun) : List String :=
  [s!"## Execution Paths: {r.walks.length}", s!"- Complete: {r.complete.length}",
    s!"- With Loops: {r.loops.length}"] ++
    if r.truncated then ["- Truncated: path limit reached"] else []

def reportLines (r : DryRun) : List String :=
  ["=== Coursekit Dry Run Report ===", ""] ++ complexityLines r.complexity ++
    coverageLines r.coverage ++ r.tagLines ++
    deadCodeLines r.deadCode ++ unknownLines r.unknownTargets ++
      mutationLines r.mutations ++ r.walkLines

def report (r : DryRun) : String := "\n".intercalate r.reportLines

end SceneCourse.DryRun
