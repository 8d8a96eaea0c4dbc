import RespStore.Store.Basic

set_option autoImplicit false

namespace RespStore

inductive CountError where
  | notAnInteger
  | overflow
  deriving DecidableEq, Repr

def CountError.message : CountError → String
  | .notAnInteger => "value is not an integer or out of range"
  | .overflow => "increment or decrement would overflow"

namespace Store

/-- The number under a key. A key that is not there counts as zero. -/
def number? (store : Store) (key : Bytes) : Option Int64 :=
  match store.get? key with
  | none => some 0
  | some text => Decimal.readInt64? text

/-- Counts the number under a key up by one and gives it. -/
def increment (store : Store) (key : Bytes) : Except CountError Int64 × Store :=
  match store.number? key with
  | none => (.error .notAnInteger, store)
  | some n =>
    if n = Int64.maxValue then (.error .overflow, store)
    else (.ok (n + 1), store.set key (Decimal.ofInt64 (n + 1)))

end Store

end RespStore
