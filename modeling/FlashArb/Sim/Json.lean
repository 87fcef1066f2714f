import FlashArb.Sim.LoanSearch
import FlashArb.Route.Finder
import FlashArb.Json.Fields

/-!
# Search settings and results as JSON
-/
namespace FlashArb

def SimConfig.ofJson (j : Json) : Decode SimConfig := do
  return { gasBufferPercent := ← Field.u64 j "gas_buffer_percent",
           minGasLimit := ← Field.u64 j "min_gas_limit",
           fallbackGasLimit := ← Field.u64 j "fallback_gas_limit",
           flashLoanFeeBps := ← Field.u64 j "flash_loan_fee_bps" }

def LoanConfig.ofJson (j : Json) : Decode LoanConfig := do
  return { minLoan := ← Field.float j "min_loan", maxLoan := ← Field.float j "max_loan",
           loanDecimals := ← Field.decimals j "loan_decimals",
           iterations := ← Field.int j "iterations", concurrency := ← Field.int j "concurrency",
           dynamicCapPercent := ← Field.u64 j "dynamic_cap_percent" }

def Target.ofJson (j : Json) : Decode Target := do
  return { loanToken := ← Field.address j "loan_token", quoteToken := ← Field.address j "quote_token",
           loanDecimals := ← Field.decimals j "loan_decimals",
           quoteDecimals := ← Field.decimals j "quote_decimals",
           threshold := ← Field.float j "threshold" }

def LoanSample.toJson (s : LoanSample) : Json :=
  .obj [("amount", Json.intText s.amount), ("profit", Json.intText s.profit)]

end FlashArb
