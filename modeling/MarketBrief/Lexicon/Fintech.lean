import MarketBrief.Lexicon.Basic

/-!
# The built-in vocabulary

* `Lexicon.fintech`: the vocabulary of financial technology, collected from the lists of its fields.
-/

namespace MarketBrief.Lexicon

def generalTerms : List String :=
  ["fintech", "financial", "finance", "banking"]

def paymentTerms : List String :=
  ["payment", "transfer", "transaction", "wallet", "peer-to-peer", "p2p", "cash app", "venmo", "stripe",
   "square", "paypal"]

def digitalBankingTerms : List String :=
  ["neobank", "digital bank", "challenger bank", "online banking"]

def lendingTerms : List String :=
  ["lending", "loan", "credit", "borrowing", "bnpl", "buy now pay later", "credit score", "underwriting"]

def cryptoTerms : List String :=
  ["blockchain", "crypto", "bitcoin", "ethereum", "web3", "defi", "nft", "tokenization", "token",
   "smart contract"]

def businessTerms : List String :=
  ["b2b", "enterprise", "corporate", "invoicing", "accounts payable", "treasury", "expense management",
   "payroll"]

def wealthTerms : List String :=
  ["wealth", "investment", "portfolio", "robo-advisor", "trading", "stock", "asset management",
   "retail investor"]

def embeddedTerms : List String :=
  ["embedded finance", "baas", "banking as a service", "api-first", "white-label"]

def complianceTerms : List String :=
  ["compliance", "regulation", "regulatory", "kyc", "aml", "regtech", "fraud", "security", "risk",
   "governance"]

def infrastructureTerms : List String :=
  ["api", "integration", "platform", "sdk", "middleware", "infrastructure"]

def automationTerms : List String :=
  ["ai", "artificial intelligence", "machine learning", "automation", "llm", "generative", "chatbot",
   "agent"]

def marketTerms : List String :=
  ["market", "growth", "emerging", "adoption", "expansion", "opportunity", "startup", "innovation",
   "disruption"]

def fintechTerms : List String :=
  generalTerms ++ paymentTerms ++ digitalBankingTerms ++ lendingTerms ++ cryptoTerms ++ businessTerms
    ++ wealthTerms ++ embeddedTerms ++ complianceTerms ++ infrastructureTerms ++ automationTerms ++ marketTerms

def fintech : Lexicon := ofTerms fintechTerms

end MarketBrief.Lexicon
