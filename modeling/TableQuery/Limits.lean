/-!
# Limits

Bounds on the queries that are composed.
-/

namespace TableQuery

structure Limits where
  /-- Nodes on the longest path of a filter. -/
  filterDepth : Nat := 128
  orderKeys : Nat := 32
  /-- The most rows a query can ask for, if there is a bound. -/
  top : Option Nat := none
  deriving DecidableEq, Repr

/-- One of the bounds, as it is named in a file. -/
inductive LimitSetting
  | filterDepth
  | orderKeys
  | top
  deriving DecidableEq, Repr

namespace LimitSetting

def all : List LimitSetting := [filterDepth, orderKeys, top]

def name : LimitSetting → String
  | filterDepth => "max_filter_depth"
  | orderKeys => "max_order_keys"
  | top => "max_top"

/-- What has to hold of the setting. -/
def requirement : LimitSetting → String
  | filterDepth => filterDepth.name ++ " must be at least 1"
  | orderKeys => orderKeys.name ++ " must be at least 1"
  | top => top.name ++ " must be at least 1 when set"

end LimitSetting

namespace Limits

def get? (l : Limits) : LimitSetting → Option Nat
  | .filterDepth => some l.filterDepth
  | .orderKeys => some l.orderKeys
  | .top => l.top

def set (l : Limits) (s : LimitSetting) (n : Nat) : Limits :=
  match s with
  | .filterDepth => { l with filterDepth := n }
  | .orderKeys => { l with orderKeys := n }
  | .top => { l with top := some n }

/-- The first setting that is zero, which no query but an empty one could keep. -/
def zero? (l : Limits) : Option LimitSetting :=
  LimitSetting.all.find? fun s => l.get? s == some 0

end Limits

end TableQuery
