import AgentFlow.Workflow.Graph

/-!
The nodes from which paths of edges lead to a node, and what they offer it.

The ancestors of a target are found breadth first. The walk holds the nodes that it has not met yet;
meeting one moves it to the frontier, so that the walk ends when the frontier is used up. The target
counts as met from the start, and an id that is no node of the graph is never met.
-/

namespace AgentFlow

/-- A variable that an input may be bound to. -/
structure Variable where
  label : String
  value : String
  type : ParamType
deriving DecidableEq, Repr

namespace Graph

/-- The sources of the edges into a node, in the order of the edges. -/
def sourcesOf (g : Graph) (target : String) : List String :=
  (g.edges.filter (·.target = target)).map (·.source)

/-- The nodes of `unmet` that the given ids meet, in the order of the ids, and the nodes that stay
unmet. -/
def meet : List String → (unmet : List Node) → List Node × List Node
  | [], unmet => ([], unmet)
  | id :: ids, unmet =>
    match unmet.find? (·.id = id) with
    | none => meet ids unmet
    | some n =>
      let (met, rest) := meet ids (unmet.eraseP (·.id = id))
      (n :: met, rest)

theorem length_meet (ids : List String) (unmet : List Node) :
    (meet ids unmet).1.length + (meet ids unmet).2.length = unmet.length := by
  induction ids generalizing unmet with
  | nil => simp [meet]
  | cons id ids ih =>
    unfold meet
    split
    · exact ih unmet
    · next n hn =>
      have hmem := List.mem_of_find?_eq_some hn
      have hlen : (unmet.eraseP (·.id = id)).length = unmet.length - 1 := by
        have := List.find?_some hn
        exact List.length_eraseP_of_mem hmem this
      have hpos := List.length_pos_of_mem hmem
      have := ih (unmet.eraseP (·.id = id))
      simp only [List.length_cons]
      omega

def walk (g : Graph) (frontier : List String) (unmet : List Node) : List Node :=
  match frontier with
  | [] => []
  | id :: frontier =>
    let found := meet (g.sourcesOf id) unmet
    found.1 ++ walk g (frontier ++ found.1.map Node.id) found.2
termination_by frontier.length + unmet.length
decreasing_by
  have := length_meet (g.sourcesOf id) unmet
  simp only [List.length_append, List.length_map, List.length_cons]
  omega

/-- The nodes from which a path of edges leads to the target, nearest first. -/
def ancestors (g : Graph) (target : String) : List Node :=
  g.walk [target] (g.nodes.filter (·.id ≠ target))

def variableOf (n : Node) (p : OutputParam) : Variable :=
  ⟨n.displayLabel ++ "." ++ p.name, (Reference.mk n.id p.name).toString, p.type⟩

def variablesFor (g : Graph) (target : String) : List Variable :=
  (g.ancestors target).flatMap fun n => n.outputs.map (variableOf n)

def allVariables (g : Graph) : List (String × List Variable) :=
  g.nodes.map fun n => (n.id, g.variablesFor n.id)

end Graph

end AgentFlow
