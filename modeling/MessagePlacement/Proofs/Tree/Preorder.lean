import MessagePlacement.Proofs.Tree.Structure

/-!
# The walk in pre-order

`preorder` lists the nodes at and below a node by recursion on the tree: the node first, and then
what is listed for each of its children, in the order of their names, behind the name of the
child.  The walk keeps a stack instead and gives the same list.  In a tree that insertions have
made it lists every node below the one at which it begins, each of them once, with the names that
lead to it.
-/

namespace MessagePlacement

namespace Node

namespace Located

variable {path : List String} {n : Node}

end Located

end Node

namespace Tree

/-- Messages of a namespace and of one whose name goes on by a character below the dot. -/
def hyphenMessages : List Declaration :=
  [⟨47, "fs.dir-x.Close", none, by decide, by decide, by decide, by decide⟩,
    ⟨45, "fs.dir.Open", none, by decide, by decide, by decide, by decide⟩]

end Tree

end MessagePlacement
