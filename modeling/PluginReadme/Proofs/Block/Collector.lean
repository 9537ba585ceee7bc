import PluginReadme.Block.Collector
import PluginReadme.Proofs.Block.Containers
import PluginReadme.Proofs.Block.Fenced

/-!
# Collectors that can be relied on

A lawful collector sees a document after its line ends are unified, finds no definitions in code,
and gives each definition the numbers of the lines that it stands on (`LawfulCollector`). The
collector of the program is lawful.
-/

namespace PluginReadme.LinkDefinition

class LawfulCollector [Collector] : Prop where
  /-- Documents that are alike with unified line ends have the same definitions. -/
  normal {s t : Text} (h : Block.normalize s = Block.normalize t) :
    Collector.definitions s = Collector.definitions t
  /-- Nothing in a fence is a definition. -/
  fenced {code : Text} (h : '\x60' ∉ code) :
    Collector.definitions (Fence.mark ++ '\n' :: (code ++ '\n' :: Fence.mark)) = .ok []
  /-- A code span alone on its line is no definition. -/
  codeSpan {code : Text} (hne : code ≠ []) (h : '\x60' ∉ code) (hfeed : '\n' ∉ code)
    (hreturn : '\r' ∉ code) : Collector.definitions ('\x60' :: code ++ ['\x60']) = .ok []
  /-- A definition stands on the lines of the document that it has the numbers of. -/
  stands {t : Text} {definitions : List LinkDefinition}
    (h : Collector.definitions t = .ok definitions) :
    ∀ definition ∈ definitions, Block.StandsOn (Block.documentLines t) definition

/-- Definitions are collected from what block structure sees of a text. -/
theorem collect_of_normalize {s t : Text} (h : Block.normalize s = Block.normalize t) :
    collect s = collect t := by
  rw [collect, collect, h]

instance : LawfulCollector where
  normal := collect_of_normalize
  fenced := collect_fenced
  codeSpan := collect_codeSpan
  stands := Block.standsOn_of_mem

end PluginReadme.LinkDefinition
