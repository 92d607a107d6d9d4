import Relevance.Analysis.Term

set_option autoImplicit false

namespace Relevance

structure Token where
  term : Term
  position : UInt32
  deriving DecidableEq, Repr

end Relevance
