import KymaOperator.Api
import KymaOperator.Templatelookup.Regular
import KymaOperator.Templatelookup.Pass
import KymaOperator.Templatelookup.Resolution
import KymaOperator.Channel.Lookup
import KymaOperator.Channel.Templates
import KymaOperator.Watch.OwnerHandler
import KymaOperator.Watch.Attribution
import KymaOperator.Controllers.Setup
import KymaOperator.Manifests.ClientCache
import KymaOperator.Manifests.Parse
import KymaOperator.Manifests.ReadyCheck
import KymaOperator.Manifests.Parse
import KymaOperator.Manifests.ReadyCheck
import KymaOperator.Deploy.ChartManager
