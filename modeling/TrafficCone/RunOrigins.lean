import Mathlib.Data.List.Induction
import TrafficCone.TransducerRuns

namespace TrafficCone.RunOrigins

open TrafficCone.TransducerRuns

variable {σ ι ω μ : Type*} {step : σ → ι → σ × List ω} {s : σ} {events : List ι}

end TrafficCone.RunOrigins
