namespace MempoolGate

inductive RiskLevel
  | low
  | medium
  | high
  | critical
deriving DecidableEq, Repr

namespace RiskLevel

def ofScore (score : Nat) : RiskLevel :=
  if 70 ≤ score then critical
  else if 50 ≤ score then high
  else if 30 ≤ score then medium
  else low

def rank : RiskLevel → Nat
  | low => 0
  | medium => 1
  | high => 2
  | critical => 3

def all : List RiskLevel := [low, medium, high, critical]

def name : RiskLevel → String
  | low => "LOW"
  | medium => "MEDIUM"
  | high => "HIGH"
  | critical => "CRITICAL"

def ofName? (s : String) : Option RiskLevel :=
  all.find? (·.name = s)

def emoji : RiskLevel → String
  | low => "✅"
  | medium => "🟠"
  | high => "🔴"
  | critical => "💀"

end RiskLevel

end MempoolGate
