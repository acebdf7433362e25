/-
Which files a batch of updates has changed, and how that shows.

A document that is written to is dirty from then on, and nothing else makes it so. After a batch
on files that were all saved, a file that is not dirty is as it was, to the last byte
(`Touched.others`), and one that is dirty belongs to a node that has been visited. Where a batch
stops it may have changed some documents and not others; what is said here holds of any part of it.
-/
import TreeQuery.Proofs.Workspace.Batches

namespace TreeQuery

variable {grammars : Grammars}

namespace Workspace

variable {w v later : Workspace grammars} {files more : List ProjectPath} {file : ProjectPath}

/-- Some files have been written to and are dirty; all others are as they were. -/
structure Touched (w later : Workspace grammars) (files : List ProjectPath) : Prop where
  present : later.project.paths = w.project.paths
  others : ∀ path, later.project.document? path = w.project.document? path ∨
    path ∈ files ∧ ∃ document, later.project.document? path = some document ∧
      document.dirty = true

theorem Touched.trans (h : w.Touched v files) (h' : v.Touched later more) :
    w.Touched later (files ++ more) := by
  refine ⟨h'.present.trans h.present, fun path => ?_⟩
  rcases h'.others path with hsame | ⟨hm, hdirty⟩
  · rw [hsame]
    exact (h.others path).imp_right fun ⟨hm, hdirty⟩ => ⟨List.mem_append_left _ hm, hdirty⟩
  · exact .inr ⟨List.mem_append_right _ hm, hdirty⟩

end Workspace

end TreeQuery
