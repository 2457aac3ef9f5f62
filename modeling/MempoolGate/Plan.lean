import MempoolGate.Text.Blank
import MempoolGate.Text.Decimal
import MempoolGate.Text.Lowercase

namespace MempoolGate

inductive Allowance
  | finite (limit : UInt64)
  | unlimited
deriving DecidableEq, Repr

namespace Allowance

def isExhausted (a : Allowance) (usage : UInt64) : Bool :=
  match a with
  | finite limit => limit.toNat ≤ usage.toNat
  | unlimited => false

/-- The number that a limit counts to; no limit counts to the greatest of 64 bits. -/
def ceiling : Allowance → UInt64
  | finite limit => limit
  | unlimited => UInt64.ofNat (UInt64.size - 1)

def text : Allowance → String
  | finite limit => Text.decimal limit.toNat
  | unlimited => "unlimited"

/-- What is left once a call is charged that finds `usage` calls before it, as text. -/
def remainingText (a : Allowance) (usage : UInt64) : String :=
  match a with
  | finite limit => Text.decimal (limit.toNat - usage.toNat - 1)
  | unlimited => "unlimited"

end Allowance

structure Plan where
  id : String
  label : String
  allowance : Allowance
deriving DecidableEq, Repr

namespace Plan

def demo : Plan := ⟨"demo", "Demo", .finite 100⟩
def starter : Plan := ⟨"starter", "Starter", .finite 1000⟩
def pro : Plan := ⟨"pro", "Pro", .finite 50000⟩
def enterprise : Plan := ⟨"enterprise", "Enterprise", .unlimited⟩

def all : List Plan := [demo, starter, pro, enterprise]

/-- The plan of that id in any case of letters; any other text means the smallest plan. -/
def resolve (text : String) : Plan :=
  (all.find? fun p => Text.equalsIgnoringCase p.id (Text.trim text)).getD demo

end Plan

end MempoolGate
