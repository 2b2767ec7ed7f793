import KeyRemap.Config.Checks
import KeyRemap.Config.Document

/-!
# Compiling

A compiler checks a configuration and then makes its document. It keeps the claims of its last run,
whether that run succeeded or not, and forgets them when the next one begins.
-/

namespace KeyRemap

/-- A compiler, with the claims of its last run. -/
structure Compiler where
  registry : Registry := ∅
  deriving Repr, Inhabited

/-- Compiles a configuration, starting without claims. -/
def Compiler.compile (compiler : Compiler) (config : Config) :
    Compiler × Except Violation Document :=
  match config.validate with
  | (state, some violation) => ({ compiler with registry := state.registry }, .error violation)
  | (state, none) => ({ compiler with registry := state.registry }, config.document)

/-- Compiles a configuration with a compiler of its own. -/
def Config.compile (config : Config) : Except Violation Document :=
  (({} : Compiler).compile config).2

end KeyRemap
