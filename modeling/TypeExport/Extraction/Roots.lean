import TypeExport.Extraction.Walk

/-! # Several Roots

    Every root is walked on its own, and the graphs are merged by name: a node takes the place of
    an earlier one of its name. -/

namespace TypeExport

/-- The failure of the walk from one of the roots. -/
structure RootError where
  root : String
  cause : ExtractError
  deriving Repr, DecidableEq

/-- The text that reports the failure, with its causes. -/
def RootError.message (e : RootError) : String :=
  s!"failed to extract {e.root}: {e.cause.fullMessage}"

/-- The nodes of `graph` put into `nodes`, one after the other. -/
def mergeGraph (nodes graph : List TypeNode) : List TypeNode :=
  graph.foldl (fun nodes node => upsert TypeNode.name node nodes) nodes

def extractRoots (m : HostModule) (roots : List String) (policy : ExtractPolicy) :
    Except RootError (List TypeNode) := do
  -- Every root starts with a fresh state: what one root declares, another declares again.
  let graphs ← roots.mapM fun root =>
    (extractNamed m root policy).mapError fun cause => ⟨root, cause⟩
  return policy.sort.sortBy (·.name) (graphs.foldl mergeGraph [])

end TypeExport
