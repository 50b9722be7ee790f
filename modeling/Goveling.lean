import Goveling.Api.City2graphDecision
import Goveling.Api.Classification
import Goveling.Api.CustomSchedules
import Goveling.Api.DayNumbers
import Goveling.Api.FreeTimeRecovery
import Goveling.Api.HotelEndpoint
import Goveling.Api.HybridEndpoint
import Goveling.Api.HybridFormat
import Goveling.Api.HybridTimes
import Goveling.Api.MultiCityAnalysis
import Goveling.Api.MultiCityEndpoint
import Goveling.Api.MultimodalDays
import Goveling.Api.MultimodalEngine
import Goveling.Api.PerformanceCache
import Goveling.Api.RebuiltRequest
import Goveling.Api.RequestSchema
import Goveling.Api.ResultReaders
import Goveling.Api.RouteCompare
import Goveling.Api.ScheduledFreeTime
import Goveling.Api.SmartSuggestions
import Goveling.Api.SuggestionSources
import Goveling.Api.TimeTexts
import Goveling.Api.TransferFields
import Goveling.Hotels.HotelDatabase
import Goveling.Hotels.HotelRecommender
import Goveling.Math.Agenda
import Goveling.Math.DayBlocks
import Goveling.Math.DigitText
import Goveling.Math.Dispersion
import Goveling.Math.EarlyExit
import Goveling.Math.Expiry
import Goveling.Math.FailureRows
import Goveling.Math.FirstAnswers
import Goveling.Math.FirstCome
import Goveling.Math.FirstLeast
import Goveling.Math.Glob
import Goveling.Math.Loads
import Goveling.Math.Matching
import Goveling.Math.Memo
import Goveling.Math.NearestFirst
import Goveling.Math.NewKeys
import Goveling.Math.OpenLog
import Goveling.Math.OrderedMap
import Goveling.Math.Provenance
import Goveling.Math.RunningMean
import Goveling.Math.RunningTotals
import Goveling.Math.Runs
import Goveling.Math.Sift
import Goveling.Math.Slices
import Goveling.Math.Tally
import Goveling.Math.TaskTotals
import Goveling.Math.Tasks
import Goveling.Math.VehicleRoute
import Goveling.Math.Walks
import Goveling.MultiCity.AccommodationPlan
import Goveling.MultiCity.AccommodationSequence
import Goveling.MultiCity.AdvancedClustering
import Goveling.MultiCity.CityClustering
import Goveling.MultiCity.CitySequence
import Goveling.MultiCity.ClusterConfidence
import Goveling.MultiCity.ClusterPartition
import Goveling.MultiCity.ClusteringCache
import Goveling.MultiCity.CountryOptimizer
import Goveling.MultiCity.DayShares
import Goveling.MultiCity.DaySplit
import Goveling.MultiCity.IntercityRoutes
import Goveling.MultiCity.RoutedTrips
import Goveling.MultiCity.SimpleItinerary
import Goveling.MultiCity.SimpleOptimizer
import Goveling.Optimizer.Allocation
import Goveling.Optimizer.BaseSources
import Goveling.Optimizer.BetweenDays
import Goveling.Optimizer.BreakerRows
import Goveling.Optimizer.City2graphRuns
import Goveling.Optimizer.ClassicTrip
import Goveling.Optimizer.ClusterSchedule
import Goveling.Optimizer.Coordinates
import Goveling.Optimizer.DayAgenda
import Goveling.Optimizer.DayLoads
import Goveling.Optimizer.DayTotals
import Goveling.Optimizer.DayWindows
import Goveling.Optimizer.EngineCascade
import Goveling.Optimizer.FreeTime
import Goveling.Optimizer.HomeBases
import Goveling.Optimizer.Injection
import Goveling.Optimizer.IntercityLabels
import Goveling.Optimizer.LocalAttractions
import Goveling.Optimizer.MultimodalRoutes
import Goveling.Optimizer.NearbyBatch
import Goveling.Optimizer.OrtoolsRuns
import Goveling.Optimizer.Packing
import Goveling.Optimizer.PlaceClusters
import Goveling.Optimizer.PlacesBatch
import Goveling.Optimizer.PlacesService
import Goveling.Optimizer.RealSuggestions
import Goveling.Optimizer.RemoteClusters
import Goveling.Optimizer.RouteTasks
import Goveling.Optimizer.RoutesInParallel
import Goveling.Optimizer.RoutingBreaker
import Goveling.Optimizer.RoutingCache
import Goveling.Optimizer.RoutingKey
import Goveling.Optimizer.RoutingOutages
import Goveling.Optimizer.TripLoop
import Goveling.Optimizer.TripMetrics
import Goveling.Optimizer.UserRollout
import Goveling.Ortools.AlertHistory
import Goveling.Ortools.CacheSize
import Goveling.Ortools.DecisionEngine
import Goveling.Ortools.DecisionPromises
import Goveling.Ortools.DistanceCache
import Goveling.Ortools.FormatConverter
import Goveling.Ortools.GeoEligibility
import Goveling.Ortools.HourlyStats
import Goveling.Ortools.LegacyPlaces
import Goveling.Ortools.LegacyRequests
import Goveling.Ortools.MalformedRecords
import Goveling.Ortools.Monitoring
import Goveling.Ortools.OsrmMatrices
import Goveling.Ortools.ParallelOptimizer
import Goveling.Ortools.ParallelStats
import Goveling.Ortools.ProfessionalOptimizer
import Goveling.Ortools.RouteDays
import Goveling.Ortools.SchemaPlaces
import Goveling.Ortools.TimeAlerts
import Goveling.Ortools.TimeWindows
import Goveling.Ortools.TourPromises
import Goveling.Ortools.TourSolver
import Goveling.Ortools.TourTotals
import Goveling.Ortools.TripDates
import Goveling.Ortools.WindowCounts
import Goveling.Places.GeographicCache
import Goveling.Places.GeographicDisk
import Goveling.Places.GoogleCache
import Goveling.Places.GoogleMapsClient
import Goveling.Places.GooglePlaces
import Goveling.Places.NearbyFallback
import Goveling.Places.PlaceIds
import Goveling.Places.RouteFallbacks
import Goveling.Places.SearchPromises
import Goveling.Places.SharedGoogleCache
import Goveling.Python.Calendar
import Goveling.Python.FloatTexts
import Goveling.Python.IsoText
import Goveling.Python.Numbers
import Goveling.Python.Text
import Goveling.Routing.BasicTsp
import Goveling.Routing.ChileRouter
import Goveling.Routing.CityDetection
import Goveling.Routing.EtaValidation
import Goveling.Routing.HybridGraph
import Goveling.Routing.HybridIntegrator
import Goveling.Routing.HybridRoutingService
import Goveling.Routing.HybridRuns
import Goveling.Routing.NearestNode
import Goveling.Routing.OdMatrixCache
import Goveling.Routing.OdMatrixUpkeep
import Goveling.Routing.ProfessionalItinerary
import Goveling.Routing.ProfessionalTour
import Goveling.Routing.SpeedLimits
import Goveling.Semantic.CityAnalyses
import Goveling.Semantic.CityNames
import Goveling.Semantic.RealInitialization
